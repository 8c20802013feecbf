import Finality.Curve.Modular
import Finality.Digest.Sha2

/-!
# Ed25519

The curve `-x² + y² = 1 + d x² y²` over the field of `2²⁵⁵ - 19` elements, in extended
coordinates with the addition law that covers every pair of points, and signature
verification over it. The equation is checked without a cofactor: the point computed
from the signature's scalar, the key and the message must be written exactly as the
signature's first half. The scalar must be below the group order. Keys of small order,
and keys whose written coordinate is not reduced, are accepted.
-/

namespace Finality.Curve.Edwards25519

/-- The number of elements of the field. -/
def prime : Nat := Nat.pow 2 255 - 19

/-- The order of the group generated by the base point. -/
def order : Nat := Nat.pow 2 252 + 27742317777372353535851937790883648493

/-- The coefficient `d` of the curve. -/
def coefficient : Nat :=
  37095705934669439343138083508754565189542113879843219016388785533085940283555

/-- A square root of minus one. -/
def rootOfMinusOne : Nat :=
  19681161376707505956807079304988542015446066515923890162744021073123829784752

/-- A point in extended coordinates: `x = X / Z`, `y = Y / Z` and `x y = T / Z`. -/
structure Point where
  X : Nat
  Y : Nat
  Z : Nat
  T : Nat

/-- The neutral point. -/
def neutral : Point := ⟨0, 1, 1, 0⟩

/-- The point with the given coordinates. -/
def affine (x y : Nat) : Point := ⟨x, y, 1, x * y % prime⟩

/-- The generator of the signature group. -/
def basePoint : Point :=
  affine 15112221349535400772501151409588531511454012693041857206046113283949847762202
    46316835694926478169428394003475163141307993866256225615783033603165251855960

/-- The sum of two points. -/
def add (p q : Point) : Point :=
  let a := subMod prime p.Y p.X * subMod prime q.Y q.X % prime
  let b := (p.Y + p.X) * (q.Y + q.X) % prime
  let c := 2 * coefficient * p.T * q.T % prime
  let d := 2 * p.Z * q.Z % prime
  let e := subMod prime b a
  let f := subMod prime d c
  let g := d + c
  let h := b + a
  ⟨e * f % prime, g * h % prime, f * g % prime, e * h % prime⟩

/-- The point opposite to a point. -/
def opposite (p : Point) : Point := ⟨subMod prime 0 p.X, p.Y, p.Z, subMod prime 0 p.T⟩

/-- A multiple of a point. -/
def times (count : Nat) (p : Point) : Point := multiple add neutral count p

/-- The written form: the second coordinate, with the parity of the first in the top bit. -/
def write (p : Point) : Bytes :=
  let inverse := invMod prime p.Z
  let x := p.X * inverse % prime
  let y := p.Y * inverse % prime
  leBytes 32 (y + x % 2 * Nat.pow 2 255)

/-- A first coordinate whose square is `numerator / denominator`, if there is one. -/
def rootOfRatio? (numerator denominator : Nat) : Option Nat :=
  let cube := denominator * denominator % prime * denominator % prime
  let seventh := cube * cube % prime * denominator % prime
  let power := powMod prime (numerator * seventh) ((prime - 5) / 8)
  let root := numerator * cube % prime * power % prime
  let square := denominator * root % prime * root % prime
  if square = numerator then some root
  else if square = subMod prime 0 numerator then some (root * rootOfMinusOne % prime)
  else none

/-- The point written in 32 bytes. -/
def read? (bytes : Bytes) : Option Point :=
  let value := leValue bytes
  let parity := value / Nat.pow 2 255 % 2
  let y := value % Nat.pow 2 255 % prime
  let square := y * y % prime
  let numerator := subMod prime square 1
  let denominator := (coefficient * square + 1) % prime
  match rootOfRatio? numerator denominator with
  | none => none
  | some root =>
    if root % 2 = parity then some (affine root y)
    else some (affine (subMod prime 0 root) y)

/-- Whether a 64-byte signature is valid for a message under a 32-byte key. -/
def verify (key message signature : Bytes) : Bool :=
  let commitment := signature.take 32
  let scalar := leValue (signature.drop 32)
  if scalar < order then
    match read? key with
    | none => false
    | some point =>
      let challenge := leValue (sha512 (commitment ++ key ++ message)) % order
      write (add (times scalar basePoint) (times challenge (opposite point))) == commitment
  else false

end Finality.Curve.Edwards25519
