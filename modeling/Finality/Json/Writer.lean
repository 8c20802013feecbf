import Finality.Datum

/-!
# Writing JSON

JSON text in ASCII: every other character is written as one or two `\u` escapes. A
`Layout` says what stands between items and members; with an indent, each stands on a
line of its own. Data that JSON has no form for are written as their text.
-/

namespace Finality.Json

/-- How the parts of a JSON text are set out. -/
structure Layout where
  /-- Between two items or members on one line. -/
  comma : String
  /-- Between a name and its value. -/
  colon : String
  /-- The width of one level of indentation, where items stand on lines of their own. -/
  indent : Option Nat
  /-- Whether the members of an object are sorted by name. -/
  sorted : Bool

/-- One line without spaces. -/
def Layout.dense : Layout := ⟨",", ":", none, false⟩

/-- One line with a space after each separator. -/
def Layout.spaced : Layout := ⟨", ", ": ", none, false⟩

/-- Lines indented by two, with the members of objects sorted. -/
def Layout.lines : Layout := ⟨",", ": ", some 2, true⟩

/-- The `\u` escape of a 16-bit unit. -/
def unitEscape (unit : Nat) : List Char := Text.codeEscape 'u' 4 unit

/-- One code of a JSON text. -/
def codeText (code : Nat) : List Char :=
  if code = 34 then ['\\', '"']
  else if code = 92 then ['\\', '\\']
  else if code = 10 then ['\\', 'n']
  else if code = 13 then ['\\', 'r']
  else if code = 9 then ['\\', 't']
  else if code = 12 then ['\\', 'f']
  else if code = 8 then ['\\', 'b']
  else if 32 ≤ code ∧ code < 127 then [Char.ofNat code]
  else if code < 0x10000 then unitEscape code
  else
    unitEscape (0xd800 + (code - 0x10000) / 0x400)
      ++ unitEscape (0xdc00 + (code - 0x10000) % 0x400)

/-- A text given by its codes, in JSON. -/
def codesText (codes : List Nat) : String :=
  String.ofList ('"' :: codes.flatMap codeText ++ ['"'])

/-- A text in JSON. -/
def quotedText (text : String) : String := codesText (Text.codes text)

/-- A floating-point number in JSON. -/
def floatText (value : Binary64) : String :=
  if value.isNaN then "NaN"
  else if value.isInfinite then (if value.isNegative then "-Infinity" else "Infinity")
  else value.text

/-- The name of a member, from the key of a map. -/
def memberName : Datum → String
  | .bool value => if value then "true" else "false"
  | .null => "null"
  | .float value => floatText value
  | key => key.display

/-- The member of an object with its value written, placed by name. -/
def insertMember (name value : String) : List (String × String) → List (String × String)
  | [] => [(name, value)]
  | (other, written) :: members =>
    if name < other then (name, value) :: (other, written) :: members
    else (other, written) :: insertMember name value members

namespace Layout

variable (layout : Layout)

/-- Parts between brackets, at a depth. -/
def bracketed (opening closing : String) (depth : Nat) (parts : List String) : String :=
  if parts.isEmpty then opening ++ closing
  else
    match layout.indent with
    | none => opening ++ layout.comma.intercalate parts ++ closing
    | some width =>
      let line (depth : Nat) := String.ofList ('\n' :: List.replicate (width * depth) ' ')
      opening ++ line (depth + 1) ++ (layout.comma ++ line (depth + 1)).intercalate parts
        ++ line depth ++ closing

/-- Members in the order of the layout. -/
def arranged (members : List (String × String)) : List (String × String) :=
  if layout.sorted then
    members.foldl (fun placed (name, value) => insertMember name value placed) []
  else members

mutual

/-- A datum at a depth. -/
def write (depth : Nat) : Datum → String
  | .null => "null"
  | .bool value => if value then "true" else "false"
  | .int value => toString value
  | .float value => floatText value
  | .text value => quotedText value
  | .brokenText codes => codesText codes
  | .list items => layout.bracketed "[" "]" depth (writeItems (depth + 1) items)
  | .tuple items => layout.bracketed "[" "]" depth (writeItems (depth + 1) items)
  | .map entries =>
    layout.bracketed "\x7b" "\x7d" depth
      ((layout.arranged (writeMembers (depth + 1) entries)).map fun (name, value) =>
        quotedText name ++ layout.colon ++ value)
  | .bytes value => quotedText (Text.quotedBytes value)
  | datum => quotedText datum.display

/-- The items of a list at a depth. -/
def writeItems (depth : Nat) : List Datum → List String
  | [] => []
  | item :: items => write depth item :: writeItems depth items

/-- The members of an object at a depth. -/
def writeMembers (depth : Nat) : List (Datum × Datum) → List (String × String)
  | [] => []
  | (key, value) :: entries =>
    (memberName key, write depth value) :: writeMembers depth entries

end

end Layout

/-- A datum as JSON in a layout. -/
def render (layout : Layout) (datum : Datum) : String := layout.write 0 datum

end Finality.Json
