import Finality.Number.Binary64

/-!
# Exact numbers

Numbers of different types can be equal: an integer, a fraction, a decimal and a
floating-point number may all stand for one half. An `Exact` number is a rational in its one
reduced form, in which the powers of two and five stand apart, so that a decimal with a
huge exponent stays small. Two numbers are equal if and only if their forms are.
-/

namespace Finality

/-- A rational number in reduced form. Zero has no powers and the denominator one. -/
structure Exact where
  /-- Whether the number is below zero. -/
  negative : Bool
  /-- The exponent of two. -/
  twos : Int
  /-- The exponent of five. -/
  fives : Int
  /-- The rest of the numerator, free of two and five. -/
  numerator : Nat
  /-- The rest of the denominator, free of two and five. -/
  denominator : Nat
deriving DecidableEq

namespace Exact

/-- A positive number without the powers of a factor, and their exponent. The fuel bounds the
exponent. -/
def split (factor : Nat) : Nat → Nat → Nat × Nat
  | 0, value => (value, 0)
  | fuel + 1, value =>
    if value ≠ 0 ∧ value % factor = 0 then
      let (rest, exponent) := split factor fuel (value / factor)
      (rest, exponent + 1)
    else (value, 0)

/-- The number `numerator * 2 ^ twos * 5 ^ fives / denominator`, where the denominator is not
zero. -/
def ofParts (negative : Bool) (numerator denominator : Nat) (twos fives : Int) : Exact :=
  if numerator = 0 then ⟨false, 0, 0, 0, 1⟩
  else
    let common := Nat.gcd numerator denominator
    let apart (value : Nat) : Nat × Nat × Nat :=
      let (odd, twos) := split 2 (value.log2 + 1) value
      let (rest, fives) := split 5 (odd.log2 + 1) odd
      (rest, twos, fives)
    let (above, aboveTwos, aboveFives) := apart (numerator / common)
    let (below, belowTwos, belowFives) := apart (denominator / common)
    ⟨negative, twos + aboveTwos - belowTwos, fives + aboveFives - belowFives, above, below⟩

/-- An integer. -/
def ofInt (value : Int) : Exact := ofParts (value < 0) value.natAbs 1 0 0

/-- A quotient of integers. -/
def ofRatio (numerator : Int) (denominator : Nat) : Exact :=
  ofParts (numerator < 0) numerator.natAbs denominator 0 0

/-- A finite floating-point number. -/
def ofFloat (value : Binary64) : Exact :=
  ofParts value.isNegative value.significand 1 value.scale 0

/-- The largest power of two or five of a number that is written as a quotient. -/
def maxPower : Nat := 10000000

/-- The numerator and the denominator of a number, if they are not too large. -/
def ratio? (value : Exact) : Option (Int × Nat) :=
  if maxPower < value.twos.natAbs ∨ maxPower < value.fives.natAbs then none
  else
    let (twos, belowTwos) := Binary64.scaled 1 2 value.twos
    let (fives, belowFives) := Binary64.scaled 1 5 value.fives
    let above := value.numerator * twos * fives
    some (if value.negative then -above else above, value.denominator * belowTwos * belowFives)

end Exact

/-- A number, an infinity, or what is no number. -/
inductive Extended where
  | finite (value : Exact)
  | infinite (negative : Bool)
  | undefined

namespace Extended

/-- The integer zero. -/
def zero : Extended := finite (.ofInt 0)

/-- A floating-point number. -/
def ofFloat (value : Binary64) : Extended :=
  if value.isNaN then undefined
  else if value.isInfinite then infinite value.isNegative
  else finite (.ofFloat value)

/-- Whether two numbers are equal. -/
def same : Extended → Extended → Bool
  | finite left, finite right => left == right
  | infinite left, infinite right => left == right
  | _, _ => false

end Extended

end Finality
