import Finality.Curve.Modular
import Finality.Digest.Sha2

/-!
# ECDSA over secp256k1

The curve `y² = x³ + 7` in projective coordinates, with an addition law that covers
every pair of its points, and ECDSA verification of SHA-256 digests over it. Both
scalars of a signature must lie strictly between zero and the group order; a large
second scalar is accepted.
-/

namespace Finality.Curve.Secp256k1

/-- The number of elements of the field. -/
def prime : Nat := Nat.pow 2 256 - Nat.pow 2 32 - 977

/-- The order of the group. -/
def order : Nat := 0xfffffffffffffffffffffffffffffffebaaedce6af48a03bbfd25e8cd0364141

/-- A point in projective coordinates: `x = X / Z` and `y = Y / Z`. -/
structure Point where
  X : Nat
  Y : Nat
  Z : Nat

/-- The point at infinity. -/
def neutral : Point := ⟨0, 1, 0⟩

/-- The generator of the group. -/
def basePoint : Point :=
  ⟨0x79be667ef9dcbbac55a06295ce870b07029bfcdb2dce28d959f2815b16f81798,
    0x483ada7726a3c4655da4fbfc0e1108a8fd17b448a68554199c47d08ffb10d4b8, 1⟩

/-- The sum of two points. -/
def add (p q : Point) : Point :=
  let xx := p.X * q.X % prime
  let yy := p.Y * q.Y % prime
  let zz := 21 * p.Z * q.Z % prime
  let xy := (p.X * q.Y + q.X * p.Y) % prime
  let yz := (p.Y * q.Z + q.Y * p.Z) % prime
  let xz := 21 * (p.X * q.Z + q.X * p.Z) % prime
  let low := subMod prime yy zz
  let high := yy + zz
  ⟨subMod prime (xy * low) (yz * xz), (high * low + 3 * xx * xz) % prime,
    (yz * high + 3 * xx * xy) % prime⟩

/-- A multiple of a point. -/
def times (count : Nat) (p : Point) : Point := multiple add neutral count p

/-- The point with the given coordinates, if they are reduced and on the curve. -/
def affine? (x y : Nat) : Option Point :=
  if x < prime ∧ y < prime ∧ y * y % prime = (x * x * x + 7) % prime then some ⟨x, y, 1⟩
  else none

/-- The point written as two 32-byte coordinates. -/
def read? (bytes : Bytes) : Option Point :=
  affine? (beValue (bytes.take 32)) (beValue (bytes.drop 32))

/-- Whether the scalars `r` and `s` sign a message under a key. -/
def verify (key : Point) (message : Bytes) (r s : Nat) : Bool :=
  if 0 < r ∧ r < order ∧ 0 < s ∧ s < order then
    let digest := beValue (sha256 message).bytes
    let inverse := invMod order s
    let sum := add (times (digest * inverse % order) basePoint)
      (times (r * inverse % order) key)
    if sum.Z = 0 then false
    else sum.X * invMod prime sum.Z % prime % order == r
  else false

end Finality.Curve.Secp256k1
