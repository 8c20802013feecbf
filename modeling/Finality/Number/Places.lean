import Finality.Number.Binary64

/-!
# Decimal places

The size of a floating-point number with a chosen count of places, rounded to the nearest
and ties to even: positional, with an exponent, or whichever of the two suits it. The
sign is not part of these texts.
-/

namespace Finality.Binary64

/-- Digits with a point before the last `places` of them. The point of a whole number is
written on request. -/
def pointed (digits : Nat) (places : Nat) (keepPoint : Bool) : List Char :=
  let written := (toString digits).toList
  let padded := List.replicate (places + 1 - written.length) '0' ++ written
  let whole := padded.length - places
  padded.take whole
    ++ (if places = 0 && !keepPoint then [] else ['.']) ++ padded.drop whole

/-- A finite number over a power of ten, rounded to an integer. -/
def roundedAt (x : Binary64) (place : Int) : Nat :=
  let (numerator, denominator) := scaled x.significand 2 x.scale
  let (unit, unitBy) := scaled 1 10 place
  roundDiv (numerator * unitBy) (denominator * unit)

/-- A finite number with `places` digits after the point. -/
def fixedText (x : Binary64) (places : Nat) (keepPoint : Bool) : List Char :=
  pointed (x.roundedAt (-(places : Int))) places keepPoint

/-- The digits of a finite number, `places` of them after the first, and its exponent. -/
def scientificDigits (x : Binary64) (places : Nat) : Nat × Int :=
  if x.significand = 0 then (0, 0)
  else
    let exponent := x.decimalExponent
    let digits := x.roundedAt (exponent - places)
    if digits = Nat.pow 10 (places + 1) then (Nat.pow 10 places, exponent + 1)
    else (digits, exponent)

/-- An exponent with its sign and at least two digits. -/
def exponentText (exponent : Int) : List Char :=
  let size := (toString exponent.natAbs).toList
  'e' :: (if exponent < 0 then '-' else '+') :: List.replicate (2 - size.length) '0' ++ size

/-- A finite number with one digit before the point, `places` after it, and an exponent. -/
def scientificText (x : Binary64) (places : Nat) (keepPoint : Bool) : List Char :=
  let (digits, exponent) := x.scientificDigits places
  pointed digits places keepPoint ++ exponentText exponent

/-- A text without the zeros at the end of its fraction, and without a point at its end. -/
def withoutZeros (text : List Char) : List Char :=
  if text.contains '.' then
    match text.reverse.dropWhile (· = '0') with
    | '.' :: rest => rest.reverse
    | rest => rest.reverse
  else text

/-- A finite number with `count` significant digits, with an exponent if it is very large or
very small. Zeros at the end are dropped unless they are asked for. -/
def generalText (x : Binary64) (count : Nat) (keepZeros : Bool) : List Char :=
  let count := max count 1
  let (digits, exponent) := x.scientificDigits (count - 1)
  let short (text : List Char) := if keepZeros then text else withoutZeros text
  if -4 ≤ exponent ∧ exponent < count then
    short (x.fixedText (count - 1 - exponent).toNat keepZeros)
  else short (pointed digits (count - 1) keepZeros) ++ exponentText exponent

end Finality.Binary64
