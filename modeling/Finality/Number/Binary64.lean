/-!
# Binary64 numbers

Floating-point numbers as their 64 bits. All arithmetic on them is exact arithmetic on
integers: a finite number is `significand * 2 ^ scale`, a decimal is rounded to the
nearest number with ties to even, and the text of a number has the fewest digits that
round back to it, of those the nearest, written positionally for decimal exponents from
-4 to 15.
-/

namespace Finality

/-- A binary64 number. -/
structure Binary64 where
  /-- The sign bit, eleven exponent bits and 52 fraction bits. -/
  bits : Nat
deriving DecidableEq, Inhabited

namespace Binary64

/-- Whether the sign bit is set. -/
def isNegative (x : Binary64) : Bool := x.bits / Nat.pow 2 63 % 2 == 1

/-- The exponent bits. -/
def exponentBits (x : Binary64) : Nat := x.bits / Nat.pow 2 52 % Nat.pow 2 11

/-- The fraction bits. -/
def fractionBits (x : Binary64) : Nat := x.bits % Nat.pow 2 52

/-- Whether the number is an infinity. -/
def isInfinite (x : Binary64) : Bool := x.exponentBits == 2047 && x.fractionBits == 0

/-- Whether the bits stand for no number. -/
def isNaN (x : Binary64) : Bool := x.exponentBits == 2047 && x.fractionBits != 0

/-- The significand of a finite number, without its sign. -/
def significand (x : Binary64) : Nat :=
  if x.exponentBits = 0 then x.fractionBits else Nat.pow 2 52 + x.fractionBits

/-- The binary exponent that goes with the significand. -/
def scale (x : Binary64) : Int :=
  if x.exponentBits = 0 then -1074 else (x.exponentBits : Int) - 1075

/-- The number with the given sign, exponent bits and fraction bits. -/
def ofParts (negative : Bool) (exponent fraction : Nat) : Binary64 :=
  ⟨(if negative then Nat.pow 2 63 else 0) + exponent * Nat.pow 2 52 + fraction⟩

/-- The infinity of a sign. -/
def infinity (negative : Bool) : Binary64 := ofParts negative 2047 0

/-- The quotient `numerator / denominator` rounded to an integer, ties to even. -/
def roundDiv (numerator denominator : Nat) : Nat :=
  let quotient := numerator / denominator
  let rest := 2 * (numerator % denominator)
  if rest > denominator ∨ (rest = denominator ∧ quotient % 2 = 1) then quotient + 1
  else quotient

/-- `value * base ^ exponent` as a numerator and a denominator. -/
def scaled (value base : Nat) (exponent : Int) : Nat × Nat :=
  if 0 ≤ exponent then (value * Nat.pow base exponent.toNat, 1)
  else (value, Nat.pow base (-exponent).toNat)

/-- The number nearest to a positive quotient. -/
def ofRatio (negative : Bool) (numerator denominator : Nat) : Binary64 :=
  let estimate : Int := (numerator.log2 : Int) - denominator.log2
  let (low, lowBy) := scaled denominator 2 estimate
  let magnitude : Int := if low ≤ numerator * lowBy then estimate else estimate - 1
  let scale : Int := max (magnitude - 52) (-1074)
  let (divisor, factor) := scaled denominator 2 scale
  let rounded := roundDiv (numerator * factor) divisor
  let (significand, scale) :=
    if rounded = Nat.pow 2 53 then (Nat.pow 2 52, scale + 1) else (rounded, scale)
  if significand < Nat.pow 2 52 then ofParts negative 0 significand
  else if scale > 971 then infinity negative
  else ofParts negative (scale + 1075).toNat (significand - Nat.pow 2 52)

/-- The number nearest to `digits * 10 ^ exponent`. -/
def ofDecimal (negative : Bool) (digits : Nat) (exponent : Int) : Binary64 :=
  if digits = 0 then ofParts negative 0 0
  else
    let magnitude : Int := (digits.log2 : Int) * 30103 / 100000 + exponent
    if magnitude > 330 then infinity negative
    else if magnitude < -360 then ofParts negative 0 0
    else
      let (numerator, denominator) := scaled digits 10 exponent
      ofRatio negative numerator denominator

/-- A number of another width, given by the sizes of its exponent and fraction. -/
def widen (exponentSize fractionSize bits : Nat) : Binary64 :=
  let negative := bits / Nat.pow 2 (exponentSize + fractionSize) % 2 == 1
  let exponent := bits / Nat.pow 2 fractionSize % Nat.pow 2 exponentSize
  let fraction := bits % Nat.pow 2 fractionSize
  if exponent = Nat.pow 2 exponentSize - 1 then
    ofParts negative 2047 (fraction * Nat.pow 2 (52 - fractionSize))
  else
    let bias : Int := Nat.pow 2 (exponentSize - 1) - 1
    let significand := if exponent = 0 then fraction else Nat.pow 2 fractionSize + fraction
    let power : Int := (if exponent = 0 then 1 else (exponent : Int)) - bias - fractionSize
    if significand = 0 then ofParts negative 0 0
    else
      let (numerator, denominator) := scaled significand 2 power
      ofRatio negative numerator denominator

/-- The bits of the same number at another width, if that width can hold it. -/
def narrow? (exponentSize fractionSize : Nat) (x : Binary64) : Option Nat :=
  let sign := if x.isNegative then Nat.pow 2 (exponentSize + fractionSize) else 0
  let bias : Int := Nat.pow 2 (exponentSize - 1) - 1
  let magnitude : Int := (x.significand.log2 : Int) + x.scale
  let power : Int := max (magnitude - fractionSize) (1 - bias - fractionSize)
  let (value, divisor) := scaled x.significand 2 (x.scale - power)
  let significand := value / divisor
  let exponent : Int := power + bias + fractionSize
  let candidate :=
    if significand < Nat.pow 2 fractionSize then sign + significand
    else sign + exponent.toNat * Nat.pow 2 fractionSize + (significand - Nat.pow 2 fractionSize)
  if exponent < Nat.pow 2 exponentSize - 1 ∧ widen exponentSize fractionSize candidate = x then
    some candidate
  else none

/-- Whether `candidate * 10 ^ place` rounds to the finite number `x`. -/
def roundsTo (x : Binary64) (candidate : Nat) (place : Int) : Bool :=
  let (left, leftBy) := scaled candidate 10 place
  let (unit, unitBy) := scaled 1 2 (x.scale - 2)
  let value := left * unitBy
  let step := leftBy * unit
  let below := if x.fractionBits = 0 ∧ x.exponentBits > 1 then 1 else 2
  let low := (4 * x.significand - below) * step
  let high := (4 * x.significand + 2) * step
  if x.significand % 2 = 0 then low ≤ value && value ≤ high else low < value && value < high

/-- The decimal exponent of a positive finite number. -/
def decimalExponent (x : Binary64) : Int :=
  let estimate : Int := ((x.significand.log2 : Int) + x.scale) * 30103 / 100000
  let (numerator, denominator) := scaled x.significand 2 x.scale
  let reaches (exponent : Int) : Bool :=
    let (power, powerBy) := scaled 1 10 exponent
    power * denominator ≤ numerator * powerBy
  if reaches (estimate + 1) then estimate + 1
  else if reaches estimate then estimate
  else estimate - 1

/-- The nearer of the two neighbours of `x` with `count` digits, if it rounds to `x`. -/
def withDigits? (x : Binary64) (count : Nat) : Option (Nat × Int) :=
  let place : Int := x.decimalExponent - (count - 1 : Int)
  let (numerator, denominator) := scaled x.significand 2 x.scale
  let (unit, unitBy) := scaled 1 10 place
  let nearest := roundDiv (numerator * unitBy) (denominator * unit)
  let below := numerator * unitBy / (denominator * unit)
  let other := if nearest = below then below + 1 else below
  if x.roundsTo nearest place then some (nearest, place)
  else if x.roundsTo other place then some (other, place)
  else none

/-- The fewest digits that round back to a positive finite number, and the place of the
last of them. -/
def shortest (x : Binary64) : Nat × Int :=
  ((List.range 17).findSome? fun count => x.withDigits? (count + 1)).getD (0, 0)

/-- The digits of a number without trailing zeros, and the place of the last digit. -/
def stripZeros : Nat → Nat → Int → Nat × Int
  | 0, digits, place => (digits, place)
  | fuel + 1, digits, place =>
    if digits ≠ 0 ∧ digits % 10 = 0 then stripZeros fuel (digits / 10) (place + 1)
    else (digits, place)

/-- The text of a positive finite number. -/
def positiveText (x : Binary64) : String :=
  let (found, foundPlace) := x.shortest
  let (digits, place) := stripZeros 20 found foundPlace
  let written := (toString digits).toList
  let exponent : Int := place + written.length - 1
  if -4 ≤ exponent ∧ exponent < 16 then
    if 0 ≤ place then String.ofList (written ++ List.replicate place.toNat '0' ++ ['.', '0'])
    else if exponent < 0 then
      String.ofList ('0' :: '.' :: List.replicate (-exponent - 1).toNat '0' ++ written)
    else
      let whole := (exponent + 1).toNat
      String.ofList (written.take whole ++ '.' :: written.drop whole)
  else
    let head := written.take 1
    let tail := written.drop 1
    let point := if tail.isEmpty then [] else ['.']
    let sign := if exponent < 0 then '-' else '+'
    let size := toString exponent.natAbs
    let padded := if size.length < 2 then "0" ++ size else size
    String.ofList (head ++ point ++ tail ++ 'e' :: sign :: padded.toList)

/-- The text of a number. -/
def text (x : Binary64) : String :=
  if x.isNaN then "nan"
  else
    let body :=
      if x.isInfinite then "inf" else if x.significand = 0 then "0.0" else x.positiveText
    if x.isNegative then "-" ++ body else body

/-- The integer part of a finite number, towards zero. -/
def truncate? (x : Binary64) : Option Int :=
  if x.exponentBits = 2047 then none
  else
    let (numerator, denominator) := scaled x.significand 2 x.scale
    let size : Int := (numerator / denominator : Nat)
    some (if x.isNegative then -size else size)

/-- The integer equal to a number, if there is one. -/
def toInt? (x : Binary64) : Option Int :=
  if x.exponentBits = 2047 then none
  else
    let (numerator, denominator) := scaled x.significand 2 x.scale
    if numerator % denominator = 0 then x.truncate? else none

/-- Whether a number is below an integer, which what is no number never is. -/
def isBelow (x : Binary64) (bound : Int) : Bool :=
  if x.exponentBits = 2047 then x.isInfinite && x.isNegative
  else
    let (numerator, denominator) := scaled x.significand 2 x.scale
    (if x.isNegative then -(numerator : Int) else numerator) < bound * denominator

end Binary64

end Finality
