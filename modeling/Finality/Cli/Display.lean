import Finality.Json.Writer
import Finality.Text.Markup

/-!
# Tables and panels

What the command line shows to people: a table of fields and values, or a panel of lines
under a title. Both take markup in their texts.
-/

namespace Finality.Display

/-- The rows that a datum takes in a table. Members and items that are made of further data
have rows of their own, named by their path; every other datum has one row. -/
def rows (path : String) : Datum → List (String × String)
  | .map entries => entryRows path entries
  | .list items =>
    match items with
    | .map _ :: _ | .list _ :: _ => itemRows path 0 items
    | items => [(path, Json.render Json.Layout.spaced (.list items))]
  | .text value => [(path, value)]
  | datum => [(path, Json.render Json.Layout.spaced datum)]
where
  /-- The rows of the members of a map. -/
  entryRows (path : String) : List (Datum × Datum) → List (String × String)
    | [] => []
    | (key, value) :: entries =>
      rows (if path = "" then key.display else path ++ "." ++ key.display) value
        ++ entryRows path entries
  /-- The rows of the items of a list. -/
  itemRows (path : String) (index : Nat) : List Datum → List (String × String)
    | [] => []
    | item :: items =>
      rows (path ++ "[" ++ toString index ++ "]") item ++ itemRows path (index + 1) items

/-- The lines of a text. -/
def textLines (text : String) : List String := text.splitOn "\n"

/-- The lines that are shown of a text with markup. -/
def markedLines? (text : String) : Option (List String) := (Markup.plain? text).map textLines

/-- A text with blanks up to a width. -/
def padded (width : Nat) (text : String) : String :=
  text ++ String.ofList (List.replicate (width - text.length) ' ')

/-- A row of a table with the name in a column of a given width. Further lines of the value
stand below it. -/
def rowLines (width : Nat) (name : String) (values : List String) : List String :=
  match values with
  | [] => [padded width name]
  | first :: others =>
    (padded width name ++ "  " ++ first) :: others.map fun value => padded width "" ++ "  " ++ value

/-- A table of fields under a title, if the markup of its texts is sound. -/
def table? (title : String) (fields : List (String × String)) : Option (List String) := do
  let shown ← fields.mapM fun (name, value) => do
    let name ← Markup.plain? name
    let lines ← markedLines? value
    return (name, lines)
  let width := shown.foldl (fun width row => max width row.1.length) "Field".length
  let title ← Markup.plain? title
  return title :: rowLines width "Field" ["Value"]
    ++ String.ofList (List.replicate (width + 7) '━')
    :: shown.flatMap fun (name, lines) => rowLines width name lines

/-- A panel of lines under a title, if the markup of its texts is sound. -/
def panel? (title : String) (fields : List (String × String)) : Option (List String) := do
  let title ← Markup.plain? title
  let lines ← fields.mapM fun (name, value) => Markup.plain? (name ++ ": " ++ value)
  let width := (title :: lines).foldl (fun width line => max width line.length) 0
  let rule (chars : List Char) := String.ofList chars
  let dashes (text : String) := List.replicate (width - text.length) '─'
  return rule (['╭', '─', ' '] ++ title.toList ++ ' ' :: dashes title ++ ['╮'])
    :: lines.map (fun line => "│ " ++ padded (width + 1) line ++ "│")
    ++ [rule ('╰' :: List.replicate (width + 3) '─' ++ ['╯'])]

end Finality.Display
