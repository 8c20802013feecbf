import Finality.Number.Exact
import Finality.Number.Integer

/-!
# Numbers as text

A fraction is written as a quotient of two integers or as a decimal with an exponent; a
floating-point number as a decimal or as one of the words for what is no finite number; a
complex number as the sum of a real and an imaginary part, which the letter `j` marks.
Single underscores may stand between digits, and blanks around the whole.
-/

namespace Finality.Literal

/-- The value of a digit of any script. -/
def digit? (char : Char) : Option Nat :=
  if char.toNat < 128 then (if char.isDigit then some (char.toNat - 48) else none)
  else Text.digitValue? char

/-- The digits that a text starts with, which single underscores may part, and what follows. -/
def digits : List Char → List Nat × List Char
  | [] => ([], [])
  | '_' :: char :: rest =>
    match digit? char with
    | some value => let (values, after) := digits rest; (value :: values, after)
    | none => ([], '_' :: char :: rest)
  | char :: rest =>
    match digit? char with
    | some value => let (values, after) := digits rest; (value :: values, after)
    | none => ([], char :: rest)

/-- The digits that a text starts with. An underscore is none of them. -/
def number (text : List Char) : List Nat × List Char :=
  match text with
  | '_' :: _ => ([], text)
  | _ => digits text

/-- The sign that a text starts with: whether it is minus. -/
def sign (text : List Char) : Bool × List Char :=
  match text with
  | '-' :: rest => (true, rest)
  | '+' :: rest => (false, rest)
  | _ => (false, text)

/-- The exponent that a text starts with, zero if there is none. -/
def exponent (text : List Char) : Int × List Char :=
  match text with
  | mark :: rest =>
    if mark = 'e' ∨ mark = 'E' then
      let (negative, rest) := sign rest
      match number rest with
      | ([], _) => (0, text)
      | (found, after) =>
        let value : Int := (Text.decimalValue found : Nat)
        (if negative then -value else value, after)
    else (0, text)
  | [] => (0, text)

/-- A decimal without its sign: its digits, the place of the last one, and what follows. -/
def decimal? (text : List Char) : Option (Nat × Int × List Char) :=
  let (whole, rest) := number text
  let (fraction, rest) : List Nat × List Char :=
    match rest with
    | '.' :: after => number after
    | _ => ([], rest)
  if whole.isEmpty ∧ fraction.isEmpty then none
  else
    let (power, rest) := exponent rest
    some (Text.decimalValue (whole ++ fraction), power - fraction.length, rest)

/-- The fraction that a text stands for. -/
def fraction? (text : List Char) : Option Exact :=
  let (negative, text) := sign (Text.trim Text.isBlank text)
  match number text with
  | (above, '/' :: rest) =>
    match number rest with
    | (below, []) =>
      let denominator := Text.decimalValue below
      if above.isEmpty ∨ below.isEmpty ∨ denominator = 0 then none
      else some (.ofParts negative (Text.decimalValue above) denominator 0 0)
    | _ => none
  | _ =>
    match decimal? text with
    | some (value, place, []) => some (.ofParts negative value 1 place place)
    | _ => none

/-- The words for what is no finite number. -/
def words : List (List Char × Binary64) :=
  [("infinity".toList, .infinity false), ("inf".toList, .infinity false),
    ("nan".toList, ⟨0x7ff8000000000000⟩)]

/-- The floating-point number without its sign that a text starts with, and what follows. -/
def unsigned? (text : List Char) : Option (Binary64 × List Char) :=
  let lower := text.map Char.toLower
  match words.find? fun word => word.1.isPrefixOf lower with
  | some (word, value) => some (value, text.drop word.length)
  | none => (decimal? text).map fun (value, place, rest) => (.ofDecimal false value place, rest)

/-- A number with the other sign. -/
def negate (value : Binary64) : Binary64 :=
  ⟨if value.isNegative then value.bits - Nat.pow 2 63 else value.bits + Nat.pow 2 63⟩

/-- A floating-point number with a sign. -/
def signed (negative : Bool) (value : Binary64) : Binary64 :=
  if negative then negate value else value

/-- Whether a text is only the letter of imaginary parts. -/
def isUnit (text : List Char) : Bool := text = ['j'] || text = ['J']

/-- The real and the imaginary part of the complex number that a text stands for. -/
def complex? (text : List Char) : Option (Binary64 × Binary64) :=
  let zero := Binary64.ofParts false 0 0
  let one := Binary64.ofDecimal false 1 0
  let trimmed := Text.trim Text.isBlank text
  let inner :=
    match trimmed with
    | '(' :: rest =>
      if rest.getLast? = some ')' then Text.trim Text.isBlank rest.dropLast else trimmed
    | _ => trimmed
  let (negative, rest) := sign inner
  match unsigned? rest with
  | none => if isUnit rest then some (zero, signed negative one) else none
  | some (first, []) => some (signed negative first, zero)
  | some (first, mark :: rest) =>
    if isUnit (mark :: rest) then some (zero, signed negative first)
    else if mark = '+' ∨ mark = '-' then
      match unsigned? rest with
      | none =>
        if isUnit rest then some (signed negative first, signed (mark = '-') one) else none
      | some (second, rest) =>
        if isUnit rest then some (signed negative first, signed (mark = '-') second) else none
    else none

end Finality.Literal
