import Finality.Text.Case
import Finality.Text.Class

/-!
# Styles by name

The name of a style is a list of words: attributes, which may be short or negated, a colour, a
background and a link. Two names of one style have the same normal form, in which each attribute
is written once and in full, in a fixed order. What is no style is its own name in lower case.
-/

namespace Finality.Style

/-- The attributes, in the order of normal forms. -/
def attributes : List String := [
  "bold", "dim", "italic", "underline", "blink", "blink2", "reverse", "conceal", "strike",
  "underline2", "frame", "encircle", "overline"]

/-- The attributes that have short names. -/
def shortNames : List (String × String) := [
  ("b", "bold"), ("d", "dim"), ("i", "italic"), ("u", "underline"), ("r", "reverse"),
  ("c", "conceal"), ("s", "strike"), ("uu", "underline2"), ("o", "overline")]

/-- The attribute with a name. -/
def attribute? (name : String) : Option String :=
  if attributes.contains name then some name else shortNames.lookup name

/-- Colours whose names hold numbers, each with the numbers. -/
def numberedColours : List (String × List Nat) := [
  ("aquamarine", [1, 3]), ("blue", [1, 3]), ("chartreuse", [1, 2, 3, 4]), ("cornsilk", [1]),
  ("cyan", [1, 2, 3]), ("dark_olive_green", [1, 2, 3]), ("dark_orange", [3]),
  ("dark_sea_green", [1, 2, 3, 4]), ("dark_slate_gray", [1, 2, 3]), ("deep_pink", [1, 2, 3, 4]),
  ("deep_sky_blue", [1, 2, 3, 4]), ("dodger_blue", [1, 2, 3]), ("gold", [1, 3]),
  ("green", [1, 3, 4]), ("honeydew", [2]), ("hot_pink", [2, 3]), ("indian_red", [1]),
  ("khaki", [1, 3]), ("light_cyan", [1, 3]), ("light_goldenrod", [1, 2, 3]),
  ("light_pink", [1, 3, 4]), ("light_salmon", [1, 3]), ("light_sky_blue", [1, 3]),
  ("light_steel_blue", [1, 3]), ("light_yellow", [3]), ("magenta", [1, 2, 3]),
  ("medium_orchid", [1, 3]), ("medium_purple", [1, 2, 3, 4]), ("misty_rose", [1, 3]),
  ("navajo_white", [1, 3]), ("orange", [1, 3, 4]), ("orange_red", [1]), ("orchid", [1, 2]),
  ("pale_green", [1, 3]), ("pale_turquoise", [1, 4]), ("pale_violet_red", [1]),
  ("pink", [1, 3]), ("plum", [1, 2, 3, 4]), ("purple", [3, 4]), ("red", [1, 3]),
  ("royal_blue", [1]), ("salmon", [1]), ("sea_green", [1, 2, 3]), ("sky_blue", [1, 2, 3]),
  ("slate_blue", [1, 3]), ("spring_green", [1, 2, 3, 4]), ("steel_blue", [1, 3]),
  ("thistle", [1, 3]), ("turquoise", [2, 4]), ("wheat", [1, 4]), ("yellow", [1, 2, 3, 4])]

/-- Colours whose names hold no numbers. -/
def plainColours : List String := [
  "default", "black", "red", "green", "yellow", "blue", "magenta", "cyan", "white",
  "bright_black", "bright_red", "bright_green", "bright_yellow", "bright_blue",
  "bright_magenta", "bright_cyan", "bright_white", "navy_blue", "dark_blue", "dark_green",
  "dark_cyan", "light_sea_green", "dark_turquoise", "medium_spring_green", "dark_red",
  "blue_violet", "steel_blue", "cornflower_blue", "cadet_blue", "medium_turquoise",
  "dark_magenta", "dark_violet", "purple", "light_slate_grey", "light_slate_gray",
  "medium_purple", "light_slate_blue", "dark_sea_green", "light_green", "medium_violet_red",
  "indian_red", "medium_orchid", "dark_goldenrod", "rosy_brown", "dark_khaki",
  "light_steel_blue", "green_yellow", "orchid", "violet", "tan", "hot_pink", "dark_orange",
  "light_coral", "sandy_brown"]

/-- The shades of grey. -/
def greys : List Nat := [
  0, 3, 7, 11, 15, 19, 23, 27, 30, 35, 37, 39, 42, 46, 50, 53, 54, 58, 62, 63, 66, 69, 70, 74,
  78, 82, 84, 85, 89, 93, 100]

/-- Whether a name is one of a colour. -/
def isColourName (name : String) : Bool :=
  plainColours.contains name
    || numberedColours.any (fun (stem, numbers) =>
      numbers.any fun number => name == stem ++ toString number)
    || greys.any fun shade => name == "grey" ++ toString shade || name == "gray" ++ toString shade

/-- The value of a number of any script, if it is one. -/
def number? (text : List Char) : Option Nat :=
  if text.isEmpty then none else (text.mapM Text.digitValue?).map Text.decimalValue

/-- What stands in the parentheses after a name. -/
def inParentheses? (name : String) (text : List Char) : Option (List Char) :=
  let opening := name.toList ++ ['(']
  if opening.isPrefixOf text && text.getLast? = some ')' then
    some ((text.drop opening.length).dropLast)
  else none

/-- Whether a word in lower case is a colour: a name, six hexadecimal digits, the number of a
colour or the three parts of one. -/
def isColour (word : List Char) : Bool :=
  isColourName (String.ofList word)
    || (match word with
      | '#' :: digits => digits.length = 6 && digits.all fun char =>
          char.isDigit || ('a' ≤ char && char ≤ 'f')
      | _ => false)
    || (match inParentheses? "color" word with
      | some digits => digits.length ≤ 3 && digits.all Char.isDigit
          && (number? digits).any (· ≤ 255)
      | none => false)
    || (match inParentheses? "rgb" word with
      | some parts =>
        let numbers := (parts.splitOn ',').map number?
        numbers.length = 3 && numbers.all fun part => part.any (· ≤ 255)
      | none => false)

/-- A style: the attributes that are set or unset, and the rest as it is written. -/
structure Parts where
  settings : List (String × Bool)
  colour : List (List Char)
  background : List (List Char)
  link : List (List Char)

/-- Words after the other parts of a style, if they are ones of a style. -/
def parts? (parts : Parts) : List (List Char) → Option Parts
  | [] => some parts
  | written :: words =>
    let word := Text.lower written
    if word = "on".toList then
      match words with
      | colour :: rest =>
        if isColour (Text.lower colour) then
          parts? { parts with background := [Text.lower colour] } rest
        else none
      | [] => none
    else if word = "not".toList then
      match words with
      | name :: rest =>
        match attribute? (String.ofList name) with
        | some found => parts? { parts with settings := (found, false) :: parts.settings } rest
        | none => none
      | [] => none
    else if word = "link".toList then
      match words with
      | link :: rest => parts? { parts with link := [link] } rest
      | [] => none
    else
      match attribute? (String.ofList word) with
      | some found => parts? { parts with settings := (found, true) :: parts.settings } words
      | none => if isColour word then parts? { parts with colour := [word] } words else none

/-- The words of a style in their normal order. -/
def Parts.words (parts : Parts) : List (List Char) :=
  (attributes.flatMap fun name =>
    match parts.settings.lookup name with
    | some true => [name.toList]
    | some false => ["not".toList, name.toList]
    | none => [])
    ++ parts.colour
    ++ (if parts.background.isEmpty then [] else "on".toList :: parts.background)
    ++ (if parts.link.isEmpty then [] else "link".toList :: parts.link)

/-- The words of a text. -/
def words (text : List Char) : List (List Char) :=
  (text.splitOnP Text.isBlank).filter fun word => !word.isEmpty

/-- The normal form of the name of a style. -/
def normal (name : List Char) : List Char :=
  match parts? ⟨[], [], [], []⟩ (words name) with
  | some parts => [' '].intercalate parts.words
  | none => Text.lower (Text.trim Text.isBlank name)

end Finality.Style
