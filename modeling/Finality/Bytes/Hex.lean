import Finality.Bytes
import Finality.Text.Class

/-!
# Hexadecimal text

`toHex` writes two lower-case digits a byte. `ofHex?` reads pairs of digits of either
case and lets ASCII blanks stand between pairs, but not inside one.
-/

namespace Finality

/-- The lower-case hexadecimal digit of a number below sixteen. -/
def hexDigit (value : Nat) : Char :=
  if value < 10 then Char.ofNat (48 + value) else Char.ofNat (87 + value)

/-- The value of a hexadecimal digit of either case. -/
def hexValue? (digit : Char) : Option Nat :=
  let code := digit.toNat
  if 48 ≤ code ∧ code ≤ 57 then some (code - 48)
  else if 97 ≤ code ∧ code ≤ 102 then some (code - 87)
  else if 65 ≤ code ∧ code ≤ 70 then some (code - 55)
  else none

/-- Two lower-case digits for each byte. -/
def hexChars : Bytes → List Char
  | [] => []
  | byte :: rest => hexDigit (byte.toNat / 16) :: hexDigit (byte.toNat % 16) :: hexChars rest

/-- A byte string in lower-case hexadecimal. -/
def toHex (bytes : Bytes) : String := String.ofList (hexChars bytes)

/-- A byte string in lower-case hexadecimal, marked with a leading `0x`. -/
def toHex0x (bytes : Bytes) : String := "0x" ++ toHex bytes

/-- The bytes written by pairs of hexadecimal digits, with blanks allowed between pairs. -/
def ofHexChars? : List Char → Option Bytes
  | [] => some []
  | high :: rest =>
    if Text.isAsciiBlank high then ofHexChars? rest
    else
      match rest with
      | [] => none
      | low :: rest =>
        match hexValue? high, hexValue? low, ofHexChars? rest with
        | some h, some l, some tail => some (UInt8.ofNat (16 * h + l) :: tail)
        | _, _, _ => none

/-- The bytes written by a hexadecimal text. -/
def ofHex? (text : String) : Option Bytes := ofHexChars? text.toList

end Finality
