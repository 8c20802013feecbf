import Finality.Text.Case
import Finality.Text.Class
import Finality.Text.Emoji.Names

/-!
# Emoji in text

A name between colons stands for an emoji. The name ends at the first colon that follows without
a blank in between, whether it is known or not, and a known one may end in a variant: one
that is shown in colour, or one that is shown as a character of the text.
-/

namespace Finality.Emoji

/-- The emoji with a name. -/
def named? (name : List Char) : Option String :=
  let mark := String.ofList name ++ "="
  namedLines.findSome? fun line =>
    (line.splitOn " ").findSome? fun entry =>
      if entry.startsWith mark then some (entry.drop mark.length).toString else none

/-- The variants: what ends the name, and the character that follows the emoji. -/
def variants : List (List Char × Nat) :=
  [("-emoji".toList, 0xfe0f), ("-text".toList, 0xfe0e)]

/-- A name without its variant, and the character of that. -/
def splitVariant (name : List Char) : List Char × List Char :=
  match variants.find? fun variant => variant.1.isSuffixOf name with
  | some (ending, code) => (name.take (name.length - ending.length), [Char.ofNat code])
  | none => (name, [])

/-- What a name between colons stands for: itself with its colons, unless it is known. -/
def replacement (name : List Char) : List Char :=
  let (stem, variant) := splitVariant name
  match named? (Text.lower stem) with
  | some emoji => emoji.toList ++ variant
  | none => ':' :: name ++ [':']

/-- The name that a text after a colon starts with, and what follows its second colon. -/
def name? (text : List Char) : Option (List Char × List Char) :=
  match text.dropWhile fun char => char ≠ ':' && !Text.isBlank char with
  | ':' :: rest => some (text.takeWhile fun char => char ≠ ':' && !Text.isBlank char, rest)
  | _ => none

/-- A text with emoji for their names. The fuel bounds the number of characters. -/
def replaceFrom : Nat → List Char → List Char
  | 0, text => text
  | fuel + 1, text =>
    match text with
    | [] => []
    | ':' :: rest =>
      match name? rest with
      | some (name, after) => replacement name ++ replaceFrom fuel after
      | none => ':' :: replaceFrom fuel rest
    | char :: rest => char :: replaceFrom fuel rest

/-- A text with emoji for their names. -/
def replace (text : List Char) : List Char := replaceFrom text.length text

end Finality.Emoji
