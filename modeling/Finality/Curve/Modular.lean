/-!
# Arithmetic modulo a number

Powers and multiples are computed by squaring or doubling along the bits of the
exponent, most significant first, so both are one fold over `bits`.
-/

namespace Finality.Curve

/-- The bits of a number, most significant first, without leading zeros. -/
def bits (value : Nat) : List Bool :=
  if value = 0 then []
  else (List.range (value.log2 + 1)).reverse.map value.testBit

/-- `count` copies of an element combined by `add`, starting from `zero`. -/
def multiple {α : Type} (add : α → α → α) (zero : α) (count : Nat) (element : α) : α :=
  (bits count).foldl
    (fun total bit =>
      let doubled := add total total
      if bit then add doubled element else doubled)
    zero

/-- The difference of two numbers modulo `modulus`. -/
def subMod (modulus left right : Nat) : Nat := (left + (modulus - right % modulus)) % modulus

/-- A power modulo `modulus`. -/
def powMod (modulus base exponent : Nat) : Nat :=
  multiple (fun left right => left * right % modulus) 1 exponent (base % modulus)

/-- The inverse of a number modulo a prime, by Fermat's little theorem. -/
def invMod (prime value : Nat) : Nat := powMod prime value (prime - 2)

end Finality.Curve
