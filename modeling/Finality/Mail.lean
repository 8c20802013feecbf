import Finality.Bytes.Hex
import Finality.Text.Class
import Finality.Text.Utf8

/-!
# Mail messages

A mail message is a header of named fields, an empty line and a body. Taking a text apart as a
message always succeeds: lines that fit no field are left out, and a header without an end has
no body. Putting the message together again gives a text in which all lines end alike and values
outside ASCII are in encoded words. It fails if a value has a line that would not be read as a
part of the value: lines of a value end at more characters than those of a message.

Bodies are left in one piece, whatever the fields say of them.
-/

namespace Finality.Mail

/-! ## Taking apart -/

/-- Lines, each with the characters that end it. -/
def splitLines (isEnd : Char → Bool) : List Char → List (List Char × List Char)
  | [] => []
  | '\r' :: '\n' :: rest => ([], ['\r', '\n']) :: splitLines isEnd rest
  | char :: rest =>
    if isEnd char then ([], [char]) :: splitLines isEnd rest
    else
      match splitLines isEnd rest with
      | [] => [([char], [])]
      | (line, ending) :: lines => (char :: line, ending) :: lines

/-- Whether a character ends a line of a message. -/
def endsLine (char : Char) : Bool := char = '\n' || char = '\r'

/-- Whether a character ends a line of a value. -/
def endsValueLine (char : Char) : Bool :=
  [0x0a, 0x0b, 0x0c, 0x0d, 0x1c, 0x1d, 0x1e, 0x85, 0x2028, 0x2029].contains char.toNat

/-- Whether a character at the start of a line continues the value before it. -/
def isFold (char : Char) : Bool := char = ' ' || char = '\t'

/-- Whether a line continues the value before it. -/
def isContinued (line : List Char) : Bool := line.head?.any isFold

/-- Whether a character may stand in the name of a field. -/
def isNameChar (char : Char) : Bool := 33 ≤ char.toNat && char.toNat ≤ 126 && char != ':'

/-- Whether a line is the envelope line that some hosts put in front of a message. -/
def isEnvelope (line : List Char) : Bool := "From ".toList.isPrefixOf line

/-- Whether a line belongs to a header. -/
def isHeaderLine (line : List Char) : Bool :=
  isEnvelope line || isContinued line || (line.dropWhile isNameChar).head? = some ':'

/-- A field of a header: its name, and its value with the line ends in it. -/
structure Field where
  name : List Char
  value : List Char

/-- A message. -/
structure Message where
  fields : List Field
  body : List Char

/-- The fields of header lines after the one that is open, if there is one. A line without a name
closes it. -/
def fieldsAfter (opened : Option Field) : List (List Char) → List Field
  | [] => opened.toList
  | line :: lines =>
    if isContinued line then
      fieldsAfter (opened.map fun field => { field with value := field.value ++ line }) lines
    else
      let name := line.takeWhile (· ≠ ':')
      let value := (line.drop (name.length + 1)).dropWhile isFold
      opened.toList ++
        fieldsAfter (if isEnvelope line || name.isEmpty then none else some ⟨name, value⟩) lines

/-- A field whose value has no line end at its end. -/
def Field.closed (field : Field) : Field :=
  { field with value := (field.value.reverse.dropWhile endsLine).reverse }

/-- The message that a text stands for. An envelope line at the end of a longer header belongs to
the body. -/
def Message.ofText (text : List Char) : Message :=
  let lines := (splitLines endsLine text).map fun (line, ending) => line ++ ending
  let header := lines.takeWhile isHeaderLine
  let rest := lines.dropWhile isHeaderLine
  let rest := if rest.head?.any fun line => line.head?.any endsLine then rest.tail else rest
  let envelope := header.tail.getLast?.filter isEnvelope
  let header := if envelope.isSome then header.dropLast else header
  ⟨(fieldsAfter none header).map Field.closed, (envelope.toList ++ rest).flatten⟩

/-! ## Putting together -/

/-- The digits of numbers below 64. -/
def base64Digit (value : Nat) : Char :=
  let code :=
    if value < 26 then 65 + value
    else if value < 52 then 71 + value
    else if value < 62 then value - 4
    else if value = 62 then 43
    else 47
  Char.ofNat code

/-- Bytes in base 64. -/
def base64 : Bytes → List Char
  | [] => []
  | [a] => [base64Digit (a.toNat / 4), base64Digit (a.toNat % 4 * 16), '=', '=']
  | [a, b] =>
    [base64Digit (a.toNat / 4), base64Digit (a.toNat % 4 * 16 + b.toNat / 16),
      base64Digit (b.toNat % 16 * 4), '=']
  | a :: b :: c :: rest =>
    base64Digit (a.toNat / 4) :: base64Digit (a.toNat % 4 * 16 + b.toNat / 16)
      :: base64Digit (b.toNat % 16 * 4 + c.toNat / 64) :: base64Digit (c.toNat % 64) :: base64 rest

/-- A byte in an encoded word: a letter, a digit or one of a few marks stands for itself. -/
def quotedByte (byte : UInt8) : List Char :=
  let char := Char.ofNat byte.toNat
  if char = ' ' then ['_']
  else if char.isAlphanum || "-!*+/".toList.contains char then [char]
  else '=' :: (toHex [byte]).toList.map Char.toUpper

/-- The encoded word for characters, in the shorter of the two encodings. -/
def encodedWord (chars : List Char) : List Char :=
  if chars.isEmpty then []
  else
    let bytes := utf8 (String.ofList chars)
    let quoted := bytes.flatMap quotedByte
    let digits := base64 bytes
    if digits.length < quoted.length then "=?utf-8?b?".toList ++ digits ++ "?=".toList
    else "=?utf-8?q?".toList ++ quoted ++ "?=".toList

/-- A line without the single space that it ends with. -/
def trimmed (line : List Char) : List Char :=
  if (line.reverse.takeWhile isFold) = [' '] then line.dropLast else line

/-- Lines of a value where those that are blank belong to the line before them. -/
def joined (line : List Char) : List (List Char) → List (List Char)
  | [] => [line]
  | next :: lines =>
    if next.all Text.isBlank then joined (line ++ next) lines else line :: joined next lines

/-- The lines of a value as they are written. -/
def writtenLines (value : List Char) : List (List Char) :=
  let lines := (splitLines endsValueLine value).map Prod.fst
  match lines with
  | [] => [[]]
  | first :: others =>
    if value.all fun char => char.toNat < 128 then
      if others.isEmpty then [first] else joined (trimmed first) (others.map trimmed)
    else
      encodedWord first
        :: others.map fun line => ' ' :: encodedWord (' ' :: line.dropWhile Text.isBlank)

/-- Why a message cannot be put together. -/
inductive Fault where
  /-- A line of a value would be read as a field. -/
  | embeddedField
  /-- A line of a value would be read as the end of the header. -/
  | brokenValue
deriving DecidableEq

/-- Whether a name and a colon come before any blank. -/
def startsField (chars : List Char) : Bool :=
  (chars.takeWhile fun char => !isFold char).tail.contains ':'

/-- Whether a field starts at some line but the first. -/
def embedsField : List Char → Bool
  | [] => false
  | char :: rest => (char = '\n' && startsField rest) || embedsField rest

/-- A field in writing. -/
def Field.write (field : Field) : Except Fault (List Char) :=
  let lines := writtenLines field.value
  let value := ['\n'].intercalate lines
  if embedsField value then .error .embeddedField
  else if lines.tail.all isContinued then .ok (field.name ++ ": ".toList ++ value ++ ['\n'])
  else .error .brokenValue

/-- A message in writing: all its lines end in the same way. -/
def Message.write (message : Message) : Except Fault (List Char) := do
  let fields ← message.fields.mapM Field.write
  let body := (splitLines endsLine message.body).flatMap fun (line, ending) =>
    if ending.isEmpty then line else line ++ ['\n']
  return fields.flatten ++ ['\n'] ++ body

/-- The text of a message that is taken apart and put together again. -/
def rewrite (text : String) : Except Fault String :=
  (Message.ofText text.toList).write.map String.ofList

end Finality.Mail
