import Finality.Bytes.Hex
import Finality.Number.Integer
import Finality.Text.Printable

/-!
# Patterns

A pattern is a text in the usual notation of regular expressions: alternatives of sequences
of characters, sets, anchors, groups and assertions, with quantifiers behind them. Only its
soundness is decided here: groups and sets are closed, quantifiers follow something that can
repeat, references name groups that are closed, and what is looked for behind a place has
one length.
-/

namespace Finality.Text.Pattern

/-- One mark of a pattern: a character by itself or behind a backslash. -/
inductive Mark where
  | plain (char : Char)
  | escaped (char : Char)
deriving DecidableEq

/-- The marks of a pattern. A backslash at the end is none. -/
def marks? : List Char → Option (List Mark)
  | [] => some []
  | ['\\'] => none
  | '\\' :: char :: rest => (marks? rest).map (.escaped char :: ·)
  | char :: rest => (marks? rest).map (.plain char :: ·)

/-- How many characters a part of a pattern can stand for. -/
structure Width where
  least : Nat
  most : Nat

namespace Width

/-- The bound of widths. -/
def limit : Nat := Nat.pow 2 64

/-- A fixed width. -/
def exactly (size : Nat) : Width := ⟨size, size⟩

/-- The width of two parts, one after the other. -/
def plus (left right : Width) : Width :=
  ⟨min (left.least + right.least) limit, min (left.most + right.most) limit⟩

/-- The width of two parts, of which one is taken. -/
def either (left right : Width) : Width :=
  ⟨min left.least right.least, max left.most right.most⟩

/-- The width of a part that is repeated. -/
def repeated (width : Width) (least : Nat) (most : Option Nat) : Width :=
  ⟨min (width.least * least) limit,
    match most with
    | some count => min (width.most * count) limit
    | none => if width.most = 0 then 0 else limit⟩

end Width

/-- What a quantifier finds in front of it. -/
inductive Kind where
  | anchor
  | repeated
  | single
deriving DecidableEq

/-- What is known while a pattern is read. -/
structure State where
  /-- The marks that are left. -/
  marks : List Mark
  /-- The widths of the groups so far, in order. An open group has none. -/
  groups : List (Option Width) := []
  /-- The names of groups with their numbers. -/
  names : List (List Char × Nat) := []
  /-- Inside an assertion about what is behind: the number of groups before it. -/
  behind : Option Nat := none
  /-- The groups that conditions ask for by number. -/
  conditions : List Nat := []
  /-- The letters that are set for the whole pattern. -/
  letters : List Char := []
  /-- Whether a part is repeated. -/
  repeats : Bool := false

/-- Reading a pattern, which fails where it is not sound. -/
abbrev Parser := StateT State Option

/-- Refuse the pattern. -/
def refuse {α : Type} : Parser α := fun _ => none

/-- Refuse the pattern unless a condition holds. -/
def ensure (condition : Bool) : Parser Unit := if condition then pure () else refuse

/-- The next mark, which stays. -/
def peek : Parser (Option Mark) := return (← get).marks.head?

/-- Take the next mark. -/
def next : Parser (Option Mark) := do
  let state ← get
  set { state with marks := state.marks.tail }
  return state.marks.head?

/-- Take a character if it is the next mark. -/
def accept (char : Char) : Parser Bool := do
  if (← peek) = some (.plain char) then
    let _ ← next
    return true
  return false

/-- Take a character, which has to be next. -/
def expect (char : Char) : Parser Unit := do ensure (← accept char)

/-- Take up to `count` characters of a class. -/
def takeSome (holds : Char → Bool) : Nat → Parser (List Char)
  | 0 => return []
  | count + 1 => do
    match ← peek with
    | some (.plain char) =>
      if holds char then
        let _ ← next
        return char :: (← takeSome holds count)
      return []
    | _ => return []

/-- Whether a character is an ASCII digit. -/
def isDigit (char : Char) : Bool := '0' ≤ char && char ≤ '9'

/-- Whether a character is an octal digit. -/
def isOctal (char : Char) : Bool := '0' ≤ char && char ≤ '7'

/-- Whether a character is a hexadecimal digit. -/
def isHex (char : Char) : Bool := (hexValue? char).isSome

/-- Whether a character is an ASCII letter. -/
def isLetter (char : Char) : Bool := ('a' ≤ char && char ≤ 'z') || ('A' ≤ char && char ≤ 'Z')

/-- The number of some digits in a base. -/
def value (base : Nat) (digits : List Char) : Nat :=
  digits.foldl (fun value digit => base * value + (hexValue? digit).getD 0) 0

/-- Take a text up to a character that ends it. The text is not empty. -/
def takeUntil (stop : Char) : Nat → Parser (List Char)
  | 0 => refuse
  | fuel + 1 => do
    match ← next with
    | none => refuse
    | some (.plain char) =>
      if char = stop then return [] else return char :: (← takeUntil stop fuel)
    | some (.escaped char) => return '\\' :: char :: (← takeUntil stop fuel)

/-- Take a text up to a character that ends it, which is not the first. -/
def takeName (stop : Char) : Parser (List Char) := do
  let name ← takeUntil stop ((← get).marks.length + 1)
  ensure !name.isEmpty
  return name

/-- Whether a character can start a name. -/
def startsName (char : Char) : Bool :=
  isLetter char || char = '_' ||
    (0xaa ≤ char.toNat && isPrintable char.toNat && !([0xab, 0xd7, 0xf7].contains char.toNat))

/-- Whether a text is a name. -/
def isName (text : List Char) : Bool :=
  match text with
  | [] => false
  | char :: rest => startsName char && rest.all fun char => startsName char || isDigit char

/-- Whether a group is closed. -/
def isClosed (state : State) (group : Nat) : Bool :=
  0 < group && (state.groups[group - 1]?.join).isSome

/-- Refuse a reference inside an assertion about what is behind, unless its group stands before
the assertion. -/
def checkBehind (group : Nat) : Parser Unit := do
  let state ← get
  match state.behind with
  | none => return ()
  | some count => ensure (isClosed state group && group ≤ count)

/-- Refer back to a group, which has to be closed. -/
def reference (group : Nat) : Parser Width := do
  ensure (isClosed (← get) group)
  checkBehind group
  return ((← get).groups[group - 1]?.join).getD (.exactly 0)

/-- The code of a character given by its number in hexadecimal digits. -/
def codeOf (size : Nat) : Parser Nat := do
  let digits ← takeSome isHex size
  ensure (digits.length = size)
  let code := value 16 digits
  ensure (code < 0x110000)
  return code

/-- The letters of escapes that stand for one character. -/
def controlLetters : List (Char × Nat) :=
  [('a', 7), ('b', 8), ('f', 12), ('n', 10), ('r', 13), ('t', 9), ('v', 11)]

/-- The letters of escapes that stand for classes of characters. -/
def classLetters : List Char := ['d', 'D', 's', 'S', 'w', 'W']

/-- Whether a text has the form of the name of a character. -/
def isCharacterName (text : List Char) : Bool :=
  text.all fun char => isLetter char || isDigit char || char = ' ' || char = '-'

/-- The code of an escape with a number or a name, if its letter announces one. -/
def numbered? (letter : Char) : Parser (Option Nat) := do
  if letter = 'x' then return some (← codeOf 2)
  else if letter = 'u' then return some (← codeOf 4)
  else if letter = 'U' then return some (← codeOf 8)
  else if letter = 'N' then
    expect '\x7b'
    let name ← takeName '\x7d'
    ensure (isCharacterName name)
    return some 0
  else return none

/-- The code of an escape inside a set. A class of characters has none. -/
def setEscape (letter : Char) : Parser (Option Nat) := do
  if classLetters.contains letter then return none
  match controlLetters.lookup letter with
  | some code => return some code
  | none =>
    match ← numbered? letter with
    | some code => return some code
    | none =>
      if isOctal letter then
        let code := value 8 (letter :: (← takeSome isOctal 2))
        ensure (code < 256)
        return some code
      ensure !(isDigit letter || isLetter letter)
      return some letter.toNat

/-- An escape outside of sets: whether it is an anchor, and its width. -/
def escape (letter : Char) : Parser (Kind × Width) := do
  let one : Kind × Width := (.single, .exactly 1)
  if ['A', 'b', 'B', 'Z'].contains letter then return (.anchor, .exactly 0)
  if classLetters.contains letter || (controlLetters.lookup letter).isSome then return one
  match ← numbered? letter with
  | some _ => return one
  | none =>
    if letter = '0' then
      let _ ← takeSome isOctal 2
      return one
    if isDigit letter then
      let second ← takeSome isDigit 1
      let third ←
        if isOctal letter && !second.isEmpty && second.all isOctal then takeSome isOctal 1
        else pure []
      if third.isEmpty then
        return (.single, ← reference (value 10 (letter :: second)))
      ensure (value 8 (letter :: (second ++ third)) < 256)
      return one
    ensure !(isLetter letter)
    return one

/-- The code of a mark inside a set. A class of characters has none. -/
def setCode : Mark → Parser (Option Nat)
  | .plain char => return some char.toNat
  | .escaped char => setEscape char

/-- Take the rest of a set. The fuel bounds its members. -/
def takeSet : Nat → (first : Bool) → Parser Unit
  | 0, _ => refuse
  | fuel + 1, first => do
    match ← next with
    | none => refuse
    | some mark =>
      if mark = .plain ']' && !first then return ()
      let low ← setCode mark
      if ← accept '-' then
        match ← next with
        | none => refuse
        | some (.plain ']') => return ()
        | some mark =>
          match low, ← setCode mark with
          | some low, some high => ensure (low ≤ high)
          | _, _ => refuse
      takeSet fuel false

/-- The bound of the counts of quantifiers. -/
def countLimit : Nat := 4294967295

/-- A count of a quantifier, which may be left out. -/
def takeCount : Parser (Option Nat) := do
  let digits ← takeSome isDigit (← get).marks.length
  if digits.isEmpty then return none
  return some (value 10 digits)

/-- The counts of a quantifier behind its opening brace, if it is one. -/
def takeCounts : Parser (Option (Nat × Option Nat)) := do
  let before ← get
  if (← peek) = some (.plain '\x7d') then return none
  let low ← takeCount
  let high ← if ← accept ',' then takeCount else pure low
  if ← accept '\x7d' then
    ensure (low.all (· < countLimit) && high.all (· < countLimit))
    match high with
    | some high => ensure (low.getD 0 ≤ high)
    | none => pure ()
    return some (low.getD 0, high)
  set before
  return none

/-- The counts of a quantifier that is one character. -/
def counts? : Char → Option (Nat × Option Nat)
  | '?' => some (0, some 1)
  | '*' => some (0, none)
  | '+' => some (1, none)
  | _ => none

/-- The letters of flags. -/
def flagLetters : List Char := ['i', 'L', 'm', 's', 'x', 'a', 't', 'u']

/-- The flags that say what kind of text is searched. -/
def typeLetters : List Char := ['a', 'L', 'u']

/-- Flags and the character that ends them. -/
def takeFlags : Nat → Char → Parser (List Char × Char)
  | 0, _ => refuse
  | fuel + 1, char => do
    ensure (flagLetters.contains char)
    match ← next with
    | some (.plain stop) =>
      if [')', '-', ':'].contains stop then return ([char], stop)
      let (letters, stop) ← takeFlags fuel stop
      return (char :: letters, stop)
    | _ => refuse

/-- The flags at the start of a group: those that are set and those that are cleared, or none
if they hold for the whole pattern. -/
def groupFlags (char : Char) : Parser (Option (List Char × List Char)) := do
  let fuel := (← get).marks.length + 1
  let (added, stop) ← if char = '-' then pure ([], '-') else takeFlags fuel char
  let types := typeLetters.filter added.contains
  ensure (!types.contains 'L' && types.length ≤ 1)
  if stop = ')' then
    modify fun state => { state with letters := state.letters ++ added }
    return none
  ensure !(added.contains 't')
  if stop = ':' then return some (added, [])
  match ← next with
  | some (.plain char) =>
    let (removed, stop) ← takeFlags fuel char
    ensure (stop = ':' && !(typeLetters.any removed.contains) && !(removed.contains 't')
      && !(added.any removed.contains))
    return some (added, removed)
  | _ => refuse

/-- Open a group and give its number. -/
def openGroup (name : Option (List Char)) : Parser Nat := do
  let state ← get
  let number := state.groups.length + 1
  match name with
  | some name =>
    ensure ((state.names.lookup name).isNone)
    set { state with groups := state.groups ++ [none], names := (name, number) :: state.names }
  | none => set { state with groups := state.groups ++ [none] }
  return number

/-- Close a group. -/
def closeGroup (number : Nat) (width : Width) : Parser Unit :=
  modify fun state => { state with groups := state.groups.set (number - 1) (some width) }

/-- The group that a condition asks for. -/
def condition : Parser Nat := do
  let name ← takeName ')'
  if isName name then
    match (← get).names.lookup name with
    | some group => return group
    | none => refuse
  match Integer.read .decimal name with
  | .ok number =>
    ensure (0 < number)
    modify fun state => { state with conditions := number.toNat :: state.conditions }
    return number.toNat
  | .error _ => refuse

/-- Skip a comment of a pattern that is laid out freely. -/
def skipLine : Nat → Parser Unit
  | 0 => return ()
  | fuel + 1 => do
    match ← next with
    | none | some (.plain '\n') => return ()
    | _ => skipLine fuel

/-- Skip a comment in a group. -/
def skipComment : Nat → Parser Unit
  | 0 => refuse
  | fuel + 1 => do
    match ← next with
    | none => refuse
    | some (.plain ')') => return ()
    | _ => skipComment fuel

/-- A group that is captured or not. -/
inductive Opening where
  /-- The group is captured, perhaps under a name. -/
  | capture (name : Option (List Char))
  /-- The group is not captured. It may set and clear flags. -/
  | flags (added removed : List Char)
  /-- A reference to a group by name. -/
  | back (group : Nat)
  /-- An assertion about what is ahead. -/
  | ahead
  /-- An assertion about what is behind. -/
  | behind
  /-- A choice that depends on a group. -/
  | choice
  /-- Nothing is left to read. -/
  | empty
  /-- Flags for the whole pattern. -/
  | settings

/-- The opening of a group behind its parenthesis. -/
def opening : Parser Opening := do
  if !(← accept '?') then return .capture none
  let length := (← get).marks.length + 1
  match ← next with
  | some (.plain char) =>
    if char = 'P' then
      if ← accept '<' then
        let name ← takeName '>'
        ensure (isName name)
        return .capture (some name)
      expect '='
      let name ← takeName ')'
      ensure (isName name)
      match (← get).names.lookup name with
      | some group => return .back group
      | none => refuse
    else if char = ':' || char = '>' then return .flags [] []
    else if char = '#' then
      skipComment length
      return .empty
    else if char = '=' || char = '!' then return .ahead
    else if char = '<' then
      match ← next with
      | some (.plain '=') | some (.plain '!') => return .behind
      | _ => refuse
    else if char = '(' then return .choice
    else if flagLetters.contains char || char = '-' then
      match ← groupFlags char with
      | none => return .settings
      | some (added, removed) => return .flags added removed
    else refuse
  | _ => refuse

/-- A sequence that is being read. -/
structure Sequence where
  before : Width := .exactly 0
  last : Option (Kind × Width) := none

namespace Sequence

/-- The width of all parts. -/
def width (sequence : Sequence) : Width :=
  match sequence.last with
  | none => sequence.before
  | some (_, width) => sequence.before.plus width

/-- A sequence with one more part. -/
def push (sequence : Sequence) (kind : Kind) (width : Width) : Sequence :=
  ⟨sequence.width, some (kind, width)⟩

end Sequence

/-- Apply a quantifier to the last part of a sequence. -/
def quantify (sequence : Sequence) (least : Nat) (most : Option Nat) : Parser Sequence := do
  match sequence.last with
  | some (.single, width) =>
    if !(← accept '?') then
      let _ ← accept '+'
    modify fun state => { state with repeats := true }
    return ⟨sequence.before, some (.repeated, width.repeated least most)⟩
  | _ => refuse

/-- Whether a character is a blank that free layout skips. -/
def isLayout (char : Char) : Bool := [' ', '\t', '\n', '\r', '\x0b', '\x0c'].contains char

mutual

/-- Alternatives. `free` says that blanks do not count, and `inner` that a group is around. -/
def alternatives : Nat → (free inner first : Bool) → Parser Width
  | 0, _, _, _ => refuse
  | fuel + 1, free, inner, first => do
    let width ← sequence fuel free inner first {}
    if ← accept '|' then
      let letters := (← get).letters
      let free := if inner then free else letters.contains 'x'
      return width.either (← alternatives fuel free inner false)
    return width

/-- The rest of a sequence. -/
def sequence : Nat → (free inner first : Bool) → Sequence → Parser Width
  | 0, _, _, _, _ => refuse
  | fuel + 1, free, inner, first, parts => do
    let one (kind : Kind) (size : Nat) : Parser Width :=
      sequence fuel free inner first (parts.push kind (.exactly size))
    match ← peek with
    | none | some (.plain '|') | some (.plain ')') => return parts.width
    | some (.escaped letter) =>
      let _ ← next
      let (kind, width) ← escape letter
      sequence fuel free inner first (parts.push kind width)
    | some (.plain char) =>
      let _ ← next
      if free && isLayout char then sequence fuel free inner first parts
      else if free && char = '#' then
        skipLine fuel
        sequence fuel free inner first parts
      else if char = '^' || char = '$' then one .anchor 0
      else if char = '[' then
        let _ ← accept '^'
        takeSet fuel true
        one .single 1
      else if char = '(' then group fuel free inner first parts
      else
        let counts ← if char = '\x7b' then takeCounts else pure (counts? char)
        match counts with
        | some (least, most) => sequence fuel free inner first (← quantify parts least most)
        | none => one .single 1

/-- A group behind its parenthesis, and the rest of the sequence. -/
def group : Nat → (free inner first : Bool) → Sequence → Parser Width
  | 0, _, _, _, _ => refuse
  | fuel + 1, free, inner, first, parts => do
    let onward (width : Width) : Parser Width :=
      sequence fuel free inner first (parts.push .single width)
    match ← opening with
    | .empty => sequence fuel free inner first parts
    | .settings =>
      ensure (first && !inner && parts.last.isNone)
      let free := (← get).letters.contains 'x'
      sequence fuel free inner first parts
    | .back number => onward (← reference number)
    | .ahead =>
      let _ ← alternatives fuel free true false
      expect ')'
      onward (.exactly 0)
    | .behind =>
      let before := (← get).behind
      modify fun state => { state with behind := before.or (some state.groups.length) }
      let width ← alternatives fuel free true false
      modify fun state => { state with behind := before }
      expect ')'
      ensure (width.least = width.most && width.least ≤ countLimit)
      onward (.exactly 0)
    | .choice =>
      checkBehind (← condition)
      let yes ← sequence fuel free true false {}
      let no ← if ← accept '|' then sequence fuel free true false {} else pure (.exactly 0)
      expect ')'
      onward (yes.either no)
    | .flags added removed =>
      let free' := (free || added.contains 'x') && !removed.contains 'x'
      let width ← alternatives fuel free' true false
      expect ')'
      onward width
    | .capture name =>
      let number ← openGroup name
      let width ← alternatives fuel free true false
      expect ')'
      closeGroup number width
      onward width

end

/-- Whether a text is a sound pattern. -/
def isSound (text : List Char) : Bool :=
  match marks? text with
  | none => false
  | some marks =>
    match alternatives (3 * marks.length + 3) false false true { marks } with
    | none => false
    | some (_, state) =>
      state.marks.isEmpty && state.conditions.all (· ≤ state.groups.length)
        && !(state.letters.contains 'a' && state.letters.contains 'u')
        && !(state.letters.contains 't' && state.repeats)

end Finality.Text.Pattern
