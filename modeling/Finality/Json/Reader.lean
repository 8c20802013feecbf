import Finality.Datum
import Finality.Number.Integer

/-!
# Reading JSON

The reader takes one JSON value with blanks around it. Besides the standard's grammar it
takes the words `NaN`, `Infinity` and `-Infinity`; of several members with one name it
keeps the place of the first and the value of the last; and a text may hold an unpaired
surrogate. A number without fraction and exponent is an integer of at most 4300 digits.
Texts whose values are nested too deeply are told from those that are malformed.
-/

namespace Finality.Json

/-- The blanks between the parts of a JSON text. -/
def isJsonBlank (char : Char) : Bool := char = ' ' || char = '\t' || char = '\n' || char = '\r'

/-- The text without leading blanks. -/
def skipBlanks (text : List Char) : List Char := text.dropWhile isJsonBlank

/-- The text after a word, if it starts with that word. -/
def afterWord? (word : String) (text : List Char) : Option (List Char) :=
  if word.toList.isPrefixOf text then some (text.drop word.length) else none

/-- The number of four hexadecimal digits, and the text after them. -/
def readUnit? : List Char → Option (Nat × List Char)
  | a :: b :: c :: d :: rest =>
    match hexValue? a, hexValue? b, hexValue? c, hexValue? d with
    | some a, some b, some c, some d => some (((a * 16 + b) * 16 + c) * 16 + d, rest)
    | _, _, _, _ => none
  | _ => none

/-- The code of an escape with one letter. -/
def letterEscape? (letter : Char) : Option Nat :=
  if letter = '"' then some 34
  else if letter = '\\' then some 92
  else if letter = '/' then some 47
  else if letter = 'b' then some 8
  else if letter = 'f' then some 12
  else if letter = 'n' then some 10
  else if letter = 'r' then some 13
  else if letter = 't' then some 9
  else none

/-- The codes of a text up to its closing quote, and what follows. -/
def readCodes? : Nat → List Char → Option (List Nat × List Char)
  | 0, _ => none
  | fuel + 1, text =>
    match text with
    | [] => none
    | '"' :: rest => some ([], rest)
    | '\\' :: 'u' :: rest =>
      match readUnit? rest with
      | none => none
      | some (unit, rest) =>
        (readCodes? fuel rest).map fun (codes, rest) => (unit :: codes, rest)
    | '\\' :: letter :: rest =>
      match letterEscape? letter with
      | none => none
      | some code => (readCodes? fuel rest).map fun (codes, rest) => (code :: codes, rest)
    | ['\\'] => none
    | char :: rest =>
      if char.toNat < 32 then none
      else (readCodes? fuel rest).map fun (codes, rest) => (char.toNat :: codes, rest)

/-- Whether a code is the first half of a surrogate pair. -/
def isHighSurrogate (code : Nat) : Bool := 0xd800 ≤ code && code < 0xdc00

/-- Whether a code is the second half of a surrogate pair. -/
def isLowSurrogate (code : Nat) : Bool := 0xdc00 ≤ code && code < 0xe000

/-- The codes with surrogate pairs put together. -/
def joinPairs : List Nat → List Nat
  | high :: low :: rest =>
    if isHighSurrogate high && isLowSurrogate low then
      (0x10000 + (high - 0xd800) * 0x400 + (low - 0xdc00)) :: joinPairs rest
    else high :: joinPairs (low :: rest)
  | codes => codes

/-- A text given by its codes. -/
def textOfCodes (codes : List Nat) : Datum :=
  let joined := joinPairs codes
  if joined.any fun code => isHighSurrogate code || isLowSurrogate code then .brokenText joined
  else .text (String.ofList (joined.map Char.ofNat))

/-- The ASCII digits that a text starts with, and what follows. -/
def readDigits (text : List Char) : List Char × List Char :=
  (text.takeWhile Char.isDigit, text.dropWhile Char.isDigit)

/-- The digits after the point of a number. -/
def readFraction (text : List Char) : List Char × List Char :=
  match text with
  | '.' :: rest =>
    let (digits, after) := readDigits rest
    if digits.isEmpty then ([], text) else (digits, after)
  | _ => ([], text)

/-- The exponent of a number. -/
def readExponent (text : List Char) : Option Int × List Char :=
  let unsigned (sign : Int) (digits : List Char) : Option Int × List Char :=
    let (found, after) := readDigits digits
    if found.isEmpty then (none, text)
    else (some (sign * (Text.decimalValue (found.map fun digit => digit.toNat - 48) : Nat)), after)
  match text with
  | mark :: rest =>
    if mark = 'e' || mark = 'E' then
      match rest with
      | '-' :: digits => unsigned (-1) digits
      | '+' :: digits => unsigned 1 digits
      | digits => unsigned 1 digits
    else (none, text)
  | [] => (none, text)

/-- A number, and what follows. -/
def readNumber? (text : List Char) : Option (Datum × List Char) :=
  let (negative, text) :=
    match text with
    | '-' :: rest => (true, rest)
    | _ => (false, text)
  let (whole, after) :=
    match text with
    | '0' :: rest => (['0'], rest)
    | _ => readDigits text
  if whole.isEmpty then none
  else
    let value (digits : List Char) := Text.decimalValue (digits.map fun digit => digit.toNat - 48)
    let (fraction, after) := readFraction after
    let (exponent, after) := readExponent after
    if fraction.isEmpty && exponent.isNone then
      if Integer.maxDigits < whole.length then none
      else some (.int (if negative then -(value whole : Int) else value whole), after)
    else
      let digits := value (whole ++ fraction)
      let place := exponent.getD 0 - fraction.length
      some (.float (Binary64.ofDecimal negative digits place), after)

/-- The words that are values. -/
def words : List (String × Datum) :=
  [("null", .null), ("true", .bool true), ("false", .bool false),
    ("NaN", .float ⟨0x7ff8000000000000⟩), ("Infinity", .float (Binary64.infinity false)),
    ("-Infinity", .float (Binary64.infinity true))]

/-- Why a text gives no value. -/
inductive Fault where
  /-- The text is not well formed. -/
  | malformed
  /-- Lists and objects are nested too deeply in a text that is well formed up to there. -/
  | tooDeep
deriving DecidableEq

/-- What was found, where finding nothing means that the text is not well formed. -/
def orMalformed {α : Type} : Option α → Except Fault α
  | some found => .ok found
  | none => .error .malformed

mutual

/-- A value without leading blanks, and what follows it. At most `depth` lists and objects may
nest. -/
def readValue (depth : Nat) : Nat → List Char → Except Fault (Datum × List Char)
  | 0, _ => .error .malformed
  | fuel + 1, text =>
    match text with
    | '"' :: rest =>
      (orMalformed (readCodes? (rest.length + 1) rest)).map fun (codes, rest) =>
        (textOfCodes codes, rest)
    | '[' :: rest =>
      match depth with
      | 0 => .error .tooDeep
      | depth + 1 =>
        match skipBlanks rest with
        | ']' :: rest => .ok (.list [], rest)
        | rest => (readItems depth fuel rest).map fun (items, rest) => (.list items, rest)
    | '\x7b' :: rest =>
      match depth with
      | 0 => .error .tooDeep
      | depth + 1 =>
        match skipBlanks rest with
        | '\x7d' :: rest => .ok (.map [], rest)
        | rest => (readMembers depth fuel [] rest).map fun (entries, rest) => (.map entries, rest)
    | text =>
      match words.findSome? fun (word, datum) => (afterWord? word text).map (datum, ·) with
      | some found => .ok found
      | none => orMalformed (readNumber? text)
termination_by structural fuel => fuel

/-- Items up to the closing bracket. -/
def readItems (depth : Nat) : Nat → List Char → Except Fault (List Datum × List Char)
  | 0, _ => .error .malformed
  | fuel + 1, text => do
    let (item, rest) ← readValue depth fuel text
    match skipBlanks rest with
    | ']' :: rest => return ([item], rest)
    | ',' :: rest =>
      let (items, rest) ← readItems depth fuel (skipBlanks rest)
      return (item :: items, rest)
    | _ => throw .malformed
termination_by structural fuel => fuel

/-- Members up to the closing brace, added to those before. -/
def readMembers (depth : Nat) :
    Nat → List (Datum × Datum) → List Char → Except Fault (List (Datum × Datum) × List Char)
  | 0, _, _ => .error .malformed
  | fuel + 1, entries, text =>
    match text with
    | '"' :: rest => do
      let (codes, rest) ← orMalformed (readCodes? (rest.length + 1) rest)
      match skipBlanks rest with
      | ':' :: rest =>
        let (value, rest) ← readValue depth fuel (skipBlanks rest)
        let entries := Datum.insertEntry (textOfCodes codes) value entries
        match skipBlanks rest with
        | '\x7d' :: rest => return (entries, rest)
        | ',' :: rest => readMembers depth fuel entries (skipBlanks rest)
        | _ => throw .malformed
      | _ => throw .malformed
    | _ => .error .malformed
termination_by structural fuel => fuel

end

/-- The value that a JSON text stands for, in which at most `depth` lists and objects nest. Two
steps for each character are enough: one for a bracket, and one for the item after it. -/
def read (depth : Nat) (text : String) : Except Fault Datum := do
  let chars := skipBlanks text.toList
  let (datum, rest) ← readValue depth (2 * chars.length + 1) chars
  if (skipBlanks rest).isEmpty then return datum else throw .malformed

end Finality.Json
