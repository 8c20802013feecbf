import Finality.Bytes.Hex
import Finality.Text.Printable
import Finality.Text.Surrogate

/-!
# Quoted text

The quoted form of a text stands between single quotes, or between double quotes when
the text has a single quote and no double one. Inside, the backslash and the enclosing
quote are escaped, tab, line feed and carriage return have escapes of their own, and
every other unprintable character is written by its code in two, four or eight
hexadecimal digits. Byte strings are quoted alike, with a mark in front and every byte
outside printable ASCII written by its code.
-/

namespace Finality.Text

/-- `width` lower-case hexadecimal digits. -/
def hexDigits (width value : Nat) : List Char :=
  (List.range width).reverse.map fun place => hexDigit (value / Nat.pow 16 place % 16)

/-- An escape: a backslash, a letter and the digits of a code. -/
def codeEscape (letter : Char) (width code : Nat) : List Char :=
  '\\' :: letter :: hexDigits width code

/-- One character of a quoted text. -/
def quotedCode (quote : Nat) (code : Nat) : List Char :=
  if code = quote ∨ code = 92 then ['\\', Char.ofNat code]
  else if code = 9 then ['\\', 't']
  else if code = 10 then ['\\', 'n']
  else if code = 13 then ['\\', 'r']
  else if isPrintable code then [Char.ofNat code]
  else if code < 0x100 then codeEscape 'x' 2 code
  else if code < 0x10000 then codeEscape 'u' 4 code
  else codeEscape 'U' 8 code

/-- The quote that encloses a text: 34 is the double quote and 39 the single one. -/
def enclosingQuote (codes : List Nat) : Nat :=
  if codes.contains 39 && !codes.contains 34 then 34 else 39

/-- The quoted form of a text given by its codes. -/
def quotedCodes (codes : List Nat) : String :=
  let quote := enclosingQuote codes
  String.ofList (Char.ofNat quote :: codes.flatMap (quotedCode quote) ++ [Char.ofNat quote])

/-- The quoted form of a text. -/
def quoted (text : String) : String := quotedCodes (codes text)

/-- One byte of a quoted byte string. -/
def quotedByte (quote code : Nat) : List Char :=
  if code < 127 then quotedCode quote code else codeEscape 'x' 2 code

/-- The quoted form of a byte string. -/
def quotedBytes (bytes : Bytes) : String :=
  let codes := bytes.map UInt8.toNat
  let quote := enclosingQuote codes
  String.ofList
    ('b' :: Char.ofNat quote :: codes.flatMap (quotedByte quote) ++ [Char.ofNat quote])

end Finality.Text
