import Finality.Text.Class
import Finality.Text.Quoted

/-!
# Integer literals

An integer literal is an optional sign and digits of any script, with single underscores
between digits and blanks around the whole; the information separators, which elsewhere
count as blanks, do not count here. Under `Radix.any` a marker `0x`, `0o` or `0b` chooses
the base, an underscore may follow the marker, and a decimal number other than zero has
no leading zero. Decimal literals have at most 4300 digits.
-/

namespace Finality

/-- Which literals are read. -/
inductive Radix where
  | decimal
  | any
deriving DecidableEq

/-- Why a text is no integer. -/
inductive IntegerFault where
  /-- The text is no literal. -/
  | malformed
  /-- The literal has more decimal digits than are read. -/
  | tooLong (digits : Nat)
deriving DecidableEq

namespace Integer

/-- The largest number of decimal digits that is read. -/
def maxDigits : Nat := 4300

/-- Whether an integer has more decimal digits than are written as text. -/
def isLong (value : Int) : Bool := Nat.pow 10 maxDigits ≤ value.natAbs

/-- The text of the fault that an integer has more decimal digits than are written as text. -/
def tooLongMessage : String :=
  "Exceeds the limit (" ++ toString maxDigits
    ++ " digits) for integer string conversion; use sys.set_int_max_str_digits() to increase"
    ++ " the limit"

/-- A character with digits and blanks of every script replaced by the ASCII ones. -/
def plainChar (char : Char) : Char :=
  if char.toNat < 128 then char
  else if Text.isBlank char then ' '
  else
    match Text.digitValue? char with
    | some value => Char.ofNat (48 + value)
    | none => char

/-- The value of an ASCII digit or letter as a digit below a base. -/
def digitBelow? (base : Nat) (char : Char) : Option Nat :=
  let code := char.toNat
  let value :=
    if 48 ≤ code ∧ code ≤ 57 then code - 48
    else if 97 ≤ code ∧ code ≤ 122 then code - 87
    else if 65 ≤ code ∧ code ≤ 90 then code - 55
    else base
  if value < base then some value else none

/-- The digits of a literal, where an underscore may stand only between two of them. -/
def digits? (base : Nat) : List Char → Option (List Nat)
  | [] => none
  | [char] => (digitBelow? base char).map ([·])
  | char :: '_' :: rest =>
    match digitBelow? base char, digits? base rest with
    | some value, some values => some (value :: values)
    | _, _ => none
  | char :: rest =>
    match digitBelow? base char, digits? base rest with
    | some value, some values => some (value :: values)
    | _, _ => none

/-- The number of a literal in a base. That there are too many digits is found before what follows
them. -/
def valueIn (base : Nat) (text : List Char) : Except IntegerFault Nat :=
  let run := text.takeWhile fun char => char = '_' || (digitBelow? base char).isSome
  match digits? base run with
  | none => .error .malformed
  | some digits =>
    if base = 10 ∧ maxDigits < digits.length then .error (.tooLong digits.length)
    else if run.length < text.length then .error .malformed
    else .ok (digits.foldl (fun value digit => base * value + digit) 0)

/-- The base that a marker letter chooses. -/
def markedBase? (marker : Char) : Option Nat :=
  if marker = 'x' ∨ marker = 'X' then some 16
  else if marker = 'o' ∨ marker = 'O' then some 8
  else if marker = 'b' ∨ marker = 'B' then some 2
  else none

/-- The number of a literal without sign and blanks. -/
def unsigned (radix : Radix) (text : List Char) : Except IntegerFault Nat :=
  match radix, text with
  | .any, '0' :: marker :: rest =>
    match markedBase? marker with
    | some base =>
      match rest with
      | '_' :: digits => valueIn base digits
      | digits => valueIn base digits
    | none =>
      match valueIn 10 text with
      | .ok 0 => .ok 0
      | .ok _ => .error .malformed
      | .error fault => .error fault
  | _, _ => valueIn 10 text

/-- The integer of a literal. -/
def read (radix : Radix) (text : List Char) : Except IntegerFault Int :=
  match Text.trim Text.isAsciiBlank (text.map plainChar) with
  | '-' :: rest => (unsigned radix rest).map fun value => -(value : Int)
  | '+' :: rest => (unsigned radix rest).map fun value => (value : Int)
  | rest => (unsigned radix rest).map fun value => (value : Int)

end Integer

/-- The most characters of a literal that the text of a fault shows, its quotes included. -/
def IntegerFault.shownLimit : Nat := 200

/-- The text of the fault of a decimal literal, which is given by its codes. -/
def IntegerFault.message (literal : List Nat) : IntegerFault → String
  | malformed =>
    "invalid literal for int() with base 10: "
      ++ String.ofList ((Text.quotedCodes literal).toList.take shownLimit)
  | tooLong digits =>
    "Exceeds the limit (" ++ toString Integer.maxDigits
      ++ " digits) for integer string conversion: value has " ++ toString digits
      ++ " digits; use sys.set_int_max_str_digits() to increase the limit"

end Finality
