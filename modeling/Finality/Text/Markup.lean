import Finality.Text.Constant
import Finality.Text.Emoji
import Finality.Text.Style

/-!
# Markup

Text for the terminal can hold tags in brackets. A tag starts with a lower-case ASCII letter,
`#`, `/` or `@` and holds no bracket; it is not shown. A tag with a slash closes the innermost
open tag, or the innermost one of its style, and there must be one. A tag that starts with `@`
may have a value, which has to be a constant or a name and constants in parentheses, once the tag
is closed. Backslashes in front of a tag are halved, and an odd one makes the tag plain text. A
backslash in front of any other bracket is not shown either. Between tags, names of emoji
are replaced.
-/

namespace Finality.Markup

/-- Whether a tag can start with a character. -/
def startsTag (char : Char) : Bool :=
  ('a' ≤ char && char ≤ 'z') || char = '#' || char = '/' || char = '@'

/-- Whether a character is a bracket. -/
def isBracket (char : Char) : Bool := char = '[' || char = ']'

/-- The tag whose opening bracket comes first in a text, and the text after the tag. -/
def tag? : List Char → Option (List Char × List Char)
  | '[' :: char :: rest =>
    if startsTag char then
      match rest.dropWhile fun next => !isBracket next with
      | ']' :: after => some (char :: rest.takeWhile (fun next => !isBracket next), after)
      | _ => none
    else none
  | _ => none

/-- A part of a text with markup. -/
inductive Piece where
  | plain (chars : List Char)
  | tag (content : List Char)

/-- The pieces of backslashes in front of a tag, and of the tag. -/
def escapedTag (backslashes : Nat) (content : List Char) : List Piece :=
  let shown := List.replicate (backslashes / 2) '\\'
  if backslashes % 2 = 1 then [.plain (shown ++ '[' :: content ++ [']'])]
  else [.plain shown, .tag content]

/-- The pieces of a text that follows characters to be shown, the last one first, and a run of
backslashes. The fuel bounds the number of characters. -/
def piecesFrom : Nat → List Char → Nat → List Char → List Piece
  | 0, _, _, _ => []
  | fuel + 1, shown, backslashes, text =>
    match tag? text with
    | some (content, rest) =>
      .plain shown.reverse :: escapedTag backslashes content ++ piecesFrom fuel [] 0 rest
    | none =>
      let slashed (count : Nat) := List.replicate count '\\' ++ shown
      match text with
      | [] => [.plain (slashed backslashes).reverse]
      | '\\' :: rest => piecesFrom fuel shown (backslashes + 1) rest
      | '[' :: rest => piecesFrom fuel ('[' :: slashed (backslashes - 1)) 0 rest
      | char :: rest => piecesFrom fuel (char :: slashed backslashes) 0 rest

/-- The pieces of a text. -/
def pieces (text : List Char) : List Piece := piecesFrom (text.length + 1) [] 0 text

/-- A tag that is open. -/
structure Opened where
  /-- The style of the tag. -/
  style : List Char
  /-- The value of the tag, without blanks around it; empty if there is none. -/
  value : List Char

/-- The tag that a tag's content opens: its style before an equals sign, and its value after it. -/
def Opened.of (content : List Char) : Opened where
  style := Style.normal (content.takeWhile (· ≠ '='))
  value := (content.dropWhile (· ≠ '=')).tail

/-- Whether a character can be part of the name in a value. -/
def isNamePart (char : Char) : Bool := char = '.' || Constant.isWordPart char

/-- Whether the value of a tag is a name, a name with constants in parentheses, or a
constant. -/
def isValue (value : List Char) : Bool :=
  let rest := value.dropWhile isNamePart
  if rest.isEmpty then true
  else if rest.head? = some '(' && rest.getLast? = some ')' && !rest.contains '\n' then
    Constant.isSound rest
  else Constant.isSound value

/-- Whether a tag can be closed. -/
def Opened.canClose (tag : Opened) : Bool :=
  tag.style.head? ≠ some '@' || tag.value.isEmpty || isValue (Text.trim Text.isBlank tag.value)

/-- The open tags without the innermost one of a style, and that tag. -/
def takeTag? (style : List Char) : List Opened → Option (Opened × List Opened)
  | [] => none
  | tag :: opened =>
    if tag.style = style then some (tag, opened)
    else (takeTag? style opened).map fun (found, rest) => (found, tag :: rest)

/-- The open tags after a tag, innermost first, if it can stand there. -/
def afterTag? (opened : List Opened) (content : List Char) : Option (List Opened) :=
  match content.takeWhile (· ≠ '=') with
  | '/' :: name =>
    let name := Text.trim Text.isBlank name
    let found :=
      if name.isEmpty then
        match opened with
        | [] => none
        | tag :: opened => some (tag, opened)
      else takeTag? (Style.normal name) opened
    match found with
    | some (tag, opened) => if tag.canClose then some opened else none
    | none => none
  | _ => some (.of content :: opened)

/-- What is shown of pieces, if no tag closes another that is not open. -/
def show? (opened : List Opened) : List Piece → Option (List Char)
  | [] => some []
  | .plain chars :: rest => (show? opened rest).map (Emoji.replace chars ++ ·)
  | .tag content :: rest =>
    match afterTag? opened content with
    | some opened => show? opened rest
    | none => none

/-- Whether a character is a control that terminals act on. Such characters are not shown. -/
def isControl (char : Char) : Bool := [7, 8, 11, 12, 13].contains char.toNat

/-- What is shown of a text with markup. -/
def plain? (text : String) : Option String :=
  (show? [] (pieces text.toList)).map fun shown =>
    String.ofList (shown.filter fun char => !isControl char)

end Finality.Markup
