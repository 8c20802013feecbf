import Finality.Bytes.Hex
import Finality.Number.Integer

/-!
# Constants in tags

A tag can give a value to its name. The value is a constant: a number with a sign, the sum of a
real and an imaginary number, a text or a byte string in quotes, a word for truth, falsehood,
nothing or an ellipsis, or a tuple, a set or a map of constants. Keys and the members of sets can
be neither sets nor maps themselves. `Constant.isSound` says whether a text is a
constant.
-/

namespace Finality.Constant

/-- What matters of a constant inside another. -/
inductive Role where
  | real
  | imaginary
  | signed
  | fixed
  | loose
deriving DecidableEq

/-- A constant that a text starts with, and what follows. -/
abbrev Reading := Option (Role × List Char)

/-- Whether a character stands between the parts of a constant. -/
def isBlank (char : Char) : Bool := [' ', '\t', '\n', '\r', '\x0c'].contains char

/-- A text without the blanks that it starts with. -/
def skip (text : List Char) : List Char := text.dropWhile isBlank

/-- Whether a character can be part of a word. -/
def isWordPart (char : Char) : Bool := char.isAlphanum || char = '_' || 128 ≤ char.toNat

/-- The digits of a base that a text starts with, which single underscores may part, and what
follows. -/
def digits (base : Nat) : List Char → List Char × List Char
  | [] => ([], [])
  | '_' :: char :: rest =>
    if (Integer.digitBelow? base char).isSome then
      let (found, after) := digits base rest
      (char :: found, after)
    else ([], '_' :: char :: rest)
  | char :: rest =>
    if (Integer.digitBelow? base char).isSome then
      let (found, after) := digits base rest
      (char :: found, after)
    else ([], char :: rest)

/-- The digits of a base that a text starts with. An underscore is none of them. -/
def run (base : Nat) (text : List Char) : List Char × List Char :=
  match text with
  | '_' :: _ => ([], text)
  | _ => digits base text

/-- What follows the exponent of a number, if there is one. -/
def afterExponent? (text : List Char) : Option (List Char) :=
  match text with
  | 'e' :: rest | 'E' :: rest =>
    let unsigned := match rest with
      | '+' :: rest | '-' :: rest => rest
      | rest => rest
    match run 10 unsigned with
    | ([], _) => none
    | (_, after) => some after
  | _ => none

/-- A number that nothing can follow which would be part of a word. -/
def ended (role : Role) (rest : List Char) : Reading :=
  if rest.head?.any isWordPart then none else some (role, rest)

/-- The end of a number that has a fraction or an exponent. -/
def endFloat (text : List Char) : Reading :=
  match text with
  | 'j' :: rest | 'J' :: rest => ended .imaginary rest
  | rest => ended .real rest

/-- A decimal number. Only zero starts with a zero, unless there is a fraction or an exponent. -/
def decimal? (text : List Char) : Reading :=
  let (whole, rest) := run 10 text
  match rest with
  | '.' :: rest =>
    let (fraction, rest) := run 10 rest
    if whole.isEmpty && fraction.isEmpty then none
    else endFloat ((afterExponent? rest).getD rest)
  | rest =>
    if whole.isEmpty then none
    else
      match afterExponent? rest with
      | some rest => endFloat rest
      | none =>
        match rest with
        | 'j' :: rest | 'J' :: rest => ended .imaginary rest
        | rest =>
          if whole.head? = some '0' && whole.any (· ≠ '0') then none
          else if Integer.maxDigits < whole.length then none
          else ended .real rest

/-- A number. -/
def number? (text : List Char) : Reading :=
  match text with
  | '0' :: marker :: rest =>
    match Integer.markedBase? marker with
    | some base =>
      let unmarked := match rest with
        | '_' :: rest => rest
        | rest => rest
      match run base unmarked with
      | ([], _) => none
      | (_, rest) => ended .real rest
    | none => decimal? text
  | text => decimal? text

/-- How a text is quoted. -/
structure Quoting where
  quotes : List Char
  raw : Bool
  bytes : Bool

/-- What follows the code of an escape, if it is complete. -/
def afterCode? (size : Nat) (text : List Char) : Option (List Char) :=
  let code := text.take size
  let value := code.foldl (fun value digit => 16 * value + (hexValue? digit).getD 0) 0
  if code.length = size && code.all (fun digit => (hexValue? digit).isSome)
      && value < 0x110000 then some (text.drop size)
  else none

/-- What follows an escape, whose letter comes first. -/
def afterEscape? (quoting : Quoting) (text : List Char) : Option (List Char) :=
  match quoting.raw, quoting.bytes, text with
  | false, _, 'x' :: rest => afterCode? 2 rest
  | false, false, 'u' :: rest => afterCode? 4 rest
  | false, false, 'U' :: rest => afterCode? 8 rest
  | false, false, 'N' :: '\x7b' :: rest =>
    match rest.dropWhile (· ≠ '\x7d') with
    | _ :: rest => some rest
    | [] => none
  | false, false, 'N' :: _ => none
  | _, _, _ :: rest => some rest
  | _, _, [] => none

/-- What follows the closing quotes of a text. The fuel bounds the number of characters. -/
def afterQuoted? (quoting : Quoting) : Nat → List Char → Option (List Char)
  | 0, _ => none
  | fuel + 1, text =>
    if quoting.quotes.isPrefixOf text then some (text.drop quoting.quotes.length)
    else
      match text with
      | [] => none
      | '\\' :: rest =>
        match afterEscape? quoting rest with
        | some rest => afterQuoted? quoting fuel rest
        | none => none
      | char :: rest =>
        if char = '\n' && quoting.quotes.length = 1 then none
        else if quoting.bytes && 128 ≤ char.toNat then none
        else if char.toNat = 0 then none
        else afterQuoted? quoting fuel rest

/-- What can stand in front of a text in quotes: whether it is raw, and whether it is of bytes. -/
def marks : List (String × Bool × Bool) := [
  ("", false, false), ("r", true, false), ("u", false, false), ("b", false, true),
  ("br", true, true), ("rb", true, true)]

/-- Whether a text in quotes is of bytes, and what follows it. -/
def quoted? (text : List Char) : Option (Bool × List Char) :=
  let mark := String.ofList ((text.takeWhile Char.isAlpha).map Char.toLower)
  let rest := text.dropWhile Char.isAlpha
  match marks.lookup mark, rest with
  | some (raw, bytes), quote :: after =>
    if quote = '"' || quote = '\'' then
      let triple := [quote, quote].isPrefixOf after
      let quoting : Quoting := ⟨if triple then [quote, quote, quote] else [quote], raw, bytes⟩
      (afterQuoted? quoting (after.length + 1) (if triple then after.drop 2 else after)).map
        fun rest => (bytes, rest)
    else none
  | _, _ => none

/-- Texts in quotes, one after the other. All of them are of bytes, or none is. -/
def texts? (bytes : Bool) : Nat → List Char → Reading
  | 0, rest => some (.fixed, rest)
  | fuel + 1, rest =>
    match (skip rest).head?.any fun char => char.isAlpha || char = '"' || char = '\'' with
    | false => some (.fixed, rest)
    | true =>
      match quoted? (skip rest) with
      | some (found, after) => if found = bytes then texts? bytes fuel after else none
      | none => some (.fixed, rest)

/-- The words that are constants. -/
def words : List String := ["True", "False", "None"]

/-- A word, or texts in quotes. -/
def word? (text : List Char) : Reading :=
  match quoted? text with
  | some (bytes, rest) => texts? bytes rest.length rest
  | none =>
    let word := String.ofList (text.takeWhile isWordPart)
    let rest := text.dropWhile isWordPart
    if words.contains word then some (.fixed, rest)
    else if word = "set" then
      match skip rest with
      | '(' :: rest =>
        match skip rest with
        | ')' :: rest => some (.loose, rest)
        | _ => none
      | _ => none
    else none

/-- The role of a tuple of constants. -/
def tupleRole (roles : List Role) : Role := if roles.contains .loose then .loose else .fixed

mutual

/-- A constant without a sign. -/
def atom? : Nat → List Char → Reading
  | 0, _ => none
  | fuel + 1, text =>
    match text with
    | '.' :: '.' :: '.' :: rest => some (.fixed, rest)
    | '(' :: rest =>
      match skip rest with
      | ')' :: rest => some (.fixed, rest)
      | rest =>
        match list? fuel rest with
        | some (roles, single, rest) =>
          match skip rest with
          | ')' :: rest =>
            some (match roles, single with
              | [role], true => role
              | _, _ => tupleRole roles, rest)
          | _ => none
        | none => none
    | '\x7b' :: rest =>
      match skip rest with
      | '\x7d' :: rest => some (.loose, rest)
      | rest => members? fuel none rest
    | char :: _ =>
      if char.isDigit || char = '.' then number? text else word? text
    | [] => none
termination_by structural fuel => fuel

/-- A constant. -/
def constant? : Nat → List Char → Reading
  | 0, _ => none
  | fuel + 1, text =>
    let left : Reading :=
      match text with
      | '+' :: rest | '-' :: rest =>
        match atom? fuel (skip rest) with
        | some (.real, rest) => some (.signed, rest)
        | some (.imaginary, rest) => some (.fixed, rest)
        | _ => none
      | text => atom? fuel text
    match left with
    | none => none
    | some (role, rest) =>
      match skip rest with
      | '+' :: after | '-' :: after =>
        if role = .real || role = .signed then
          match atom? fuel (skip after) with
          | some (.imaginary, rest) => some (.fixed, rest)
          | _ => none
        else none
      | _ => some (role, rest)
termination_by structural fuel => fuel

/-- Constants with commas in between, whether there is just one and no comma, and what follows. -/
def list? : Nat → List Char → Option (List Role × Bool × List Char)
  | 0, _ => none
  | fuel + 1, text =>
    match constant? fuel text with
    | none => none
    | some (role, rest) =>
      match skip rest with
      | ',' :: after =>
        match list? fuel (skip after) with
        | some (roles, _, rest) => some (role :: roles, false, rest)
        | none => some ([role], false, after)
      | rest => some ([role], true, rest)
termination_by structural fuel => fuel

/-- The members of a set or the entries of a map, and the closing brace. It is known whether they
are entries once there is one. -/
def members? : Nat → Option Bool → List Char → Reading
  | 0, _, _ => none
  | fuel + 1, areEntries, text =>
    match constant? fuel text with
    | none | some (.loose, _) => none
    | some (_, rest) =>
      let after : Option (Bool × List Char) :=
        match skip rest with
        | ':' :: rest => (constant? fuel (skip rest)).map fun (_, rest) => (true, rest)
        | rest => some (false, rest)
      match after with
      | none => none
      | some (isEntry, rest) =>
        if areEntries.any (· ≠ isEntry) then none
        else
          match skip rest with
          | '\x7d' :: rest => some (.loose, rest)
          | ',' :: rest =>
            match skip rest with
            | '\x7d' :: rest => some (.loose, rest)
            | rest => members? fuel (some isEntry) rest
          | _ => none
termination_by structural fuel => fuel

end

/-- Whether a text is a constant, or several with commas in between. -/
def isSound (text : List Char) : Bool :=
  match list? (2 * text.length + 2) (skip text) with
  | some (_, _, rest) =>
    match skip rest with
    | [] | '#' :: _ => true
    | _ => false
  | none => false

end Finality.Constant
