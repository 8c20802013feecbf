import Finality.Datum
import Finality.Number.Places

/-!
# Messages with places

A message can hold places for arguments: a percent sign, the name of an argument in
parentheses, flags, a width, a precision and a letter that says how the argument is
written. Two percent signs stand for one. A star in the place of a width or a precision takes
its number from the arguments. The arguments are taken in order and all of them must be used,
unless they are the entries of a map, which places can name. A message without arguments
is left as it is.
-/

namespace Finality

/-- Why arguments do not fit a message. -/
inductive MessageFault where
  /-- An argument is of the wrong type, missing or left over. -/
  | mismatch
  /-- A place names an entry that there is not. -/
  | unknownName
  /-- The message is cut off inside a place. -/
  | incomplete
  /-- The name of a place is not closed. -/
  | incompleteName
  /-- There is no such letter. -/
  | unknownLetter (letter : Char) (index : Nat)
  /-- No character has the number. -/
  | noCharacter
  /-- What is no number has no integer part. -/
  | notNumber
  /-- An infinity has no integer part. -/
  | infinite
  /-- An integer is too large for a floating-point number. -/
  | tooLarge
  /-- A width in digits is too large. -/
  | wide
  /-- A precision in digits is too large. -/
  | precise
  /-- The number of a star is too large for a type of the machine. -/
  | largeStar (type : String)
  /-- A precision leaves no room for the digits. -/
  | crowded
  /-- There is no memory for so wide a place. -/
  | memory
deriving DecidableEq

namespace MessageFault

/-- The text of a fault, where it has one. -/
def message? : MessageFault → Option String
  | mismatch | unknownName | memory => none
  | incomplete => some "incomplete format"
  | incompleteName => some "incomplete format key"
  | unknownLetter letter index =>
    some ("unsupported format character '" ++ String.singleton (if 31 ≤ letter.toNat ∧
      letter.toNat < 127 then letter else '?') ++ "' (0x"
      ++ String.ofList (Nat.toDigits 16 (Text.codeOf letter))
      ++ ") at index " ++ toString index)
  | noCharacter => some "%c arg not in range(0x110000)"
  | notNumber => some "cannot convert float NaN to integer"
  | infinite => some "cannot convert float infinity to integer"
  | tooLarge => some "int too large to convert to float"
  | wide => some "width too big"
  | precise => some "precision too big"
  | largeStar type => some ("Python int too large to convert to C " ++ type)
  | crowded => some "precision too large"

/-- Whether a fault is that a number has no room. -/
def isOverflow : MessageFault → Bool
  | noCharacter | infinite | tooLarge | largeStar _ | crowded => true
  | _ => false

end MessageFault

namespace Message

/-- A place of a message. -/
structure Place where
  flags : List Char
  width : Nat
  precision : Option Nat
  letter : Char

/-- Whether a character is a flag. -/
def isFlag (char : Char) : Bool := ['#', '0', '-', ' ', '+'].contains char

/-- Whether a character is an ASCII digit. -/
def isDigit (char : Char) : Bool := '0' ≤ char && char ≤ '9'

/-- The number at the start of a text, zero if there is none. -/
def leadingNumber (text : List Char) : Nat × List Char :=
  (Text.decimalValue ((text.takeWhile isDigit).map fun char => char.toNat - 48),
    text.dropWhile isDigit)

/-- The name at the start of a place, up to the parenthesis that closes it. -/
def nameOf (depth : Nat) : List Char → Option (List Char × List Char)
  | [] => none
  | '(' :: rest =>
    (nameOf (depth + 1) rest).map fun (name, rest) => ('(' :: name, rest)
  | ')' :: rest =>
    match depth with
    | 0 => some ([], rest)
    | depth + 1 => (nameOf depth rest).map fun (name, rest) => (')' :: name, rest)
  | char :: rest => (nameOf depth rest).map fun (name, rest) => (char :: name, rest)

/-- The arguments of a message that are left. -/
structure Arguments where
  rest : List Datum
  entries : Option (List (Datum × Datum))

namespace Arguments

/-- Arguments that are taken in order. -/
def ofList (arguments : List Datum) : Arguments := ⟨arguments, none⟩

/-- The arguments of a call: a map that stands alone and is not empty gives its entries. -/
def ofCall : List Datum → Arguments
  | [.map (entry :: entries)] => ⟨[.map (entry :: entries)], some (entry :: entries)⟩
  | arguments => ofList arguments

/-- The next argument, and those after it. -/
def next (arguments : Arguments) : Except MessageFault (Datum × Arguments) :=
  match arguments.rest with
  | argument :: rest => .ok (argument, { arguments with rest })
  | [] => .error .mismatch

/-- The arguments where an entry stands for them all. -/
def named (arguments : Arguments) (name : String) : Except MessageFault Arguments :=
  match arguments.entries with
  | none => .error .mismatch
  | some entries =>
    match Datum.lookup? name entries with
    | some value => .ok { arguments with rest := [value] }
    | none => .error .unknownName

end Arguments

/-- The number that a star takes from the arguments. -/
def star (arguments : Arguments) : Except MessageFault (Int × Arguments) := do
  let (argument, arguments) ← arguments.next
  match argument with
  | .int value => return (value, arguments)
  | .bool value => return (if value then 1 else 0, arguments)
  | _ => throw .mismatch

/-- The largest width. -/
def maxWidth : Nat := capacity 8 / 2 - 1

/-- The largest precision. -/
def maxPrecision : Nat := capacity 4 / 2 - 1

/-- The widest place that is filled. -/
def roomiest : Nat := 10000000000

/-- The width at the start of a text, which is aligned to the left where it is below zero. -/
def widthOf (arguments : Arguments) (flags text : List Char) :
    Except MessageFault (Nat × List Char × Arguments × List Char) :=
  match text with
  | '*' :: rest => do
    let (width, arguments) ← star arguments
    if maxWidth < width ∨ width < -maxWidth - 1 then throw (.largeStar "ssize_t")
    return (width.natAbs, if width < 0 then '-' :: flags else flags, arguments, rest)
  | text =>
    let (width, rest) := leadingNumber text
    if maxWidth < width then .error .wide else .ok (width, flags, arguments, rest)

/-- The precision at the start of a text, if there is one. -/
def precisionOf (arguments : Arguments) (text : List Char) :
    Except MessageFault (Option Nat × Arguments × List Char) :=
  match text with
  | '.' :: '*' :: rest => do
    let (precision, arguments) ← star arguments
    if maxPrecision < precision ∨ precision < -maxPrecision - 1 then throw (.largeStar "int")
    return (some precision.toNat, arguments, rest)
  | '.' :: rest =>
    let (precision, rest) := leadingNumber rest
    if maxPrecision < precision then .error .precise else .ok (some precision, arguments, rest)
  | text => .ok (none, arguments, text)

/-- A place after its percent sign and name, the arguments after its stars and the text after
it. -/
def placeOf (arguments : Arguments) (text : List Char) :
    Except MessageFault (Place × Arguments × List Char) := do
  let (width, flags, arguments, rest) ←
    widthOf arguments (text.takeWhile isFlag) (text.dropWhile isFlag)
  let (precision, arguments, rest) ← precisionOf arguments rest
  let rest :=
    match rest with
    | 'h' :: rest | 'l' :: rest | 'L' :: rest => rest
    | rest => rest
  match rest with
  | [] => throw .incomplete
  | letter :: rest => return (⟨flags, width, precision, letter⟩, arguments, rest)

/-- A number in a place: its sign, its mark of a base and its digits. The zeros that fill a
place stand before the digits, blanks before the sign. -/
def setNumber (place : Place) (negative : Bool) (mark digits : List Char) : List Char :=
  let sign :=
    if negative then ['-']
    else if place.flags.contains '+' then ['+']
    else if place.flags.contains ' ' then [' ']
    else []
  let missing := place.width - (sign ++ mark ++ digits).length
  if place.flags.contains '-' then sign ++ mark ++ digits ++ List.replicate missing ' '
  else if place.flags.contains '0' then sign ++ mark ++ List.replicate missing '0' ++ digits
  else List.replicate missing ' ' ++ sign ++ mark ++ digits

/-- A text in a place. -/
def setText (place : Place) (text : List Char) : List Char :=
  let missing := List.replicate (place.width - text.length) ' '
  if place.flags.contains '-' then text ++ missing else missing ++ text

/-- A character in ASCII: others are written by their code. -/
def asciiChar (char : Char) : List Char :=
  let code := Text.codeOf char
  if code < 128 then [char]
  else if code < 0x100 then Text.codeEscape 'x' 2 code
  else if code < 0x10000 then Text.codeEscape 'u' 4 code
  else Text.codeEscape 'U' 8 code

/-- The integer of an argument, whose fraction may be dropped. -/
def integerOf (dropsFraction : Bool) : Datum → Except MessageFault Int
  | .bool value => .ok (if value then 1 else 0)
  | .int value => .ok value
  | .float value =>
    if !dropsFraction then .error .mismatch
    else if value.isNaN then .error .notNumber
    else
      match value.truncate? with
      | some number => .ok number
      | none => .error .infinite
  | _ => .error .mismatch

/-- The floating-point number of an argument. -/
def floatOf : Datum → Except MessageFault Binary64
  | .float value => .ok value
  | datum => do
    let value ← integerOf false datum
    let float := Binary64.ofDecimal (value < 0) value.natAbs 0
    if float.isInfinite then throw .tooLarge else return float

/-- An integer in a place, in a base with its mark. -/
def setInteger (place : Place) (base : Nat) (mark : List Char) (upper : Bool) (value : Int) :
    List Char :=
  let written := Nat.toDigits base value.natAbs
  let digits := if upper then written.map Char.toUpper else written
  let padded := List.replicate (place.precision.getD 1 - digits.length) '0' ++ digits
  setNumber place (value < 0) (if place.flags.contains '#' then mark else []) padded

/-- A floating-point number in a place. -/
def setFloat (place : Place) (value : Binary64) : List Char :=
  let places := place.precision.getD 6
  let full := place.flags.contains '#'
  let lower := place.letter.toLower
  let body :=
    if value.isNaN then ['n', 'a', 'n']
    else if value.isInfinite then ['i', 'n', 'f']
    else if lower = 'f' then value.fixedText places full
    else if lower = 'e' then value.scientificText places full
    else value.generalText places full
  let body := if place.letter = lower then body else body.map Char.toUpper
  setNumber place (value.isNegative && !value.isNaN) [] body

/-- The character of an argument. -/
def characterOf : Datum → Except MessageFault Char
  | .text value => ofText value
  | .brokenText codes => ofText (Text.ofCodes codes)
  | datum => do
    let code ← integerOf false datum
    if 0 ≤ code ∧ code < 0x110000 then return Text.charOf code.toNat else throw .noCharacter
where
  /-- The character of a text that has just one. -/
  ofText (text : String) : Except MessageFault Char :=
    match text.toList with
    | [char] => .ok char
    | _ => .error .mismatch

/-- An argument in its place. -/
def setArgument (place : Place) (index : Nat) (argument : Datum) :
    Except MessageFault (List Char) := do
  if roomiest < place.width then throw .memory
  let integer (dropsFraction : Bool) (base : Nat) (mark : List Char) (upper : Bool) :
      Except MessageFault (List Char) := do
    let value ← integerOf dropsFraction argument
    let digits := (Nat.toDigits base value.natAbs).length
    if maxPrecision < place.precision.getD 0 + digits + 3 then throw .crowded
    return setInteger place base mark upper value
  let cut (text : List Char) : List Char :=
    setText place (match place.precision with
      | some count => text.take count
      | none => text)
  match place.letter with
  | 's' => .ok (cut argument.display.toList)
  | 'r' => .ok (cut argument.shown.toList)
  | 'a' => .ok (cut (argument.shown.toList.flatMap asciiChar))
  | 'd' | 'i' | 'u' => integer true 10 [] false
  | 'o' => integer false 8 ['0', 'o'] false
  | 'x' => integer false 16 ['0', 'x'] false
  | 'X' => integer false 16 ['0', 'X'] true
  | 'c' => (characterOf argument).map fun char => setText place [char]
  | 'e' | 'E' | 'f' | 'F' | 'g' | 'G' => (floatOf argument).map (setFloat place)
  | letter => .error (.unknownLetter letter index)

/-- The text of a message from a percent sign on that is not followed by a name, where `size` is
the length of the whole message. The fuel bounds the number of places. -/
def fillFrom (size : Nat) : Nat → Arguments → List Char → Except MessageFault (List Char)
  | 0, _, text => .ok text
  | fuel + 1, arguments, text =>
    let plain := text.takeWhile (· ≠ '%')
    match text.dropWhile (· ≠ '%') with
    | [] =>
      if arguments.rest.isEmpty || arguments.entries.isSome then .ok plain
      else .error .mismatch
    | _ :: '%' :: rest => return plain ++ '%' :: (← fillFrom size fuel arguments rest)
    | _ :: rest => do
      let (arguments, rest) ← match rest with
        | '(' :: rest =>
          if arguments.entries.isNone then throw .mismatch
          match nameOf 0 rest with
          | some (name, rest) => pure (← arguments.named (String.ofList name), rest)
          | none => throw .incompleteName
        | rest => pure (arguments, rest)
      let (place, arguments, rest) ← placeOf arguments rest
      let (argument, arguments) ← arguments.next
      let written ← setArgument place (size - rest.length - 1) argument
      return plain ++ written ++ (← fillFrom size fuel arguments rest)

/-- A message with its arguments in their places. -/
def fill (message : String) (arguments : Arguments) : Except MessageFault String :=
  let text := message.toList
  if arguments.rest.isEmpty then .ok message
  else (fillFrom text.length (text.length + 1) arguments text).map String.ofList

end Message

end Finality
