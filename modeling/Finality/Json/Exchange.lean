import Finality.Wire.Form

/-!
# Data in exchange

Hosts exchange data as JSON, and some of them hold numbers as floating point. In exchange an
integer that these cannot hold is decimal text, as long as it can be written at all, byte
strings are hexadecimal, tuples are lists, and the keys of maps are texts, where the last of
equal ones wins.
-/

namespace Finality.Datum

/-- A value that is no datum of its own: a height as text, and every other in compact form. -/
def exchangedValue (value : Value) : String :=
  if value.kind = .height then (object value).display else toHex value.compact

mutual

/-- A datum as it is exchanged. -/
def exchanged : Datum → Datum
  | int value =>
    if viewLimit < value.natAbs && !Integer.isLong value then text (toString value) else int value
  | bytes value => text (toHex value)
  | list items | tuple items => list (exchangedItems items)
  | map entries =>
    map ((exchangedEntries entries).foldl (fun known (name, value) =>
      insertEntry (text name) value known) [])
  | object value => text (exchangedValue value)
  | datum => if datum.isScalar then datum else text datum.display

/-- The items of a list as they are exchanged. -/
def exchangedItems : List Datum → List Datum
  | [] => []
  | item :: items => exchanged item :: exchangedItems items

/-- The entries of a map as they are exchanged. -/
def exchangedEntries : List (Datum × Datum) → List (String × Datum)
  | [] => []
  | (key, value) :: entries => (key.display, exchanged value) :: exchangedEntries entries

end

end Finality.Datum
