import Finality.Number.Binary64

/-!
# Scaled decimals

A decimal is a coefficient and a power of ten, so that `1.0` and `1.00` are different ways to
write one number. Decimals are exact within wide bounds; a product has 28 digits, with ties
to even.
-/

namespace Finality

/-- The number of decimal digits of a natural number. -/
def digitCount (value : Nat) : Nat :=
  let estimate := value.log2 * 30102999566 / 100000000000
  if Nat.pow 10 (estimate + 1) ≤ value then estimate + 2
  else if Nat.pow 10 estimate ≤ value then estimate + 1
  else if estimate = 0 then 1
  else estimate

/-- A decimal: `coefficient * 10 ^ exponent` with a sign. -/
structure Scaled where
  negative : Bool
  coefficient : Nat
  exponent : Int

namespace Scaled

/-- The exponent of ten of the first digit. -/
def leading (value : Scaled) : Int := value.exponent + (digitCount value.coefficient - 1 : Nat)

/-- The largest exponent of a first digit. -/
def maxLeading : Int := 999999999999999999

/-- The smallest exponent of ten. -/
def minExponent : Int := -1999999999999999997

/-- The decimal of a coefficient and an exponent, if it is within bounds. -/
def of? (coefficient exponent : Int) : Option Scaled :=
  let value : Scaled := ⟨coefficient < 0, coefficient.natAbs, exponent⟩
  if value.leading ≤ maxLeading ∧ minExponent ≤ exponent then some value else none

/-- The number of digits of a product. -/
def precision : Nat := 28

/-- The largest exponent of the first digit of a product. -/
def maxProduct : Int := 999999

/-- The smallest exponent of ten of a product. -/
def minProduct : Int := -1000026

/-- A decimal rounded to the digits of a product, if it is not too large. -/
def rounded? (value : Scaled) : Option Scaled :=
  let surplus : Int := digitCount value.coefficient - precision
  let dropped := (max surplus (minProduct - value.exponent)).toNat
  let coefficient :=
    if digitCount value.coefficient + 1 < dropped then 0
    else Binary64.roundDiv value.coefficient (Nat.pow 10 dropped)
  let exponent := value.exponent + dropped
  let (coefficient, exponent) :=
    if precision < digitCount coefficient then (coefficient / 10, exponent + 1)
    else (coefficient, exponent)
  let result : Scaled := ⟨value.negative, coefficient, exponent⟩
  if coefficient = 0 then some ⟨value.negative, 0, min exponent maxProduct⟩
  else if result.leading ≤ maxProduct then some result
  else none

/-- The largest exponent of two for which the power is looked at. -/
def maxPower : Nat := 4000000

/-- A power of two as a decimal, if it is not too large. A power that is too small is zero. -/
def powerOfTwo? (exponent : Int) : Option Scaled :=
  if 0 ≤ exponent then
    if maxPower < exponent.toNat then none
    else rounded? ⟨false, Nat.pow 2 exponent.toNat, 0⟩
  else if maxPower < exponent.natAbs then some ⟨false, 0, minProduct⟩
  else rounded? ⟨false, Nat.pow 5 exponent.natAbs, exponent⟩

/-- The product of an integer and a power of two, if it is not too large. -/
def ofBinary? (coefficient exponent : Int) : Option Scaled := do
  let power ← powerOfTwo? exponent
  rounded? ⟨coefficient < 0, coefficient.natAbs * power.coefficient, power.exponent⟩

/-- A decimal in text: positional where the exponent is not above zero and the first digit not
far behind the point, else with one digit before the point and an exponent. -/
def text (value : Scaled) : String :=
  let digits := (toString value.coefficient).toList
  let places : Int := value.exponent + digits.length
  let point : Int := if value.exponent ≤ 0 ∧ -6 < places then places else 1
  let body :=
    if point ≤ 0 then '0' :: '.' :: (List.replicate (-point).toNat '0' ++ digits)
    else if digits.length ≤ point.toNat then digits
    else digits.take point.toNat ++ '.' :: digits.drop point.toNat
  let power := places - point
  let suffix :=
    if power = 0 then "" else "E" ++ (if 0 < power then "+" else "") ++ toString power
  (if value.negative then "-" else "") ++ String.ofList body ++ suffix

end Scaled

end Finality
