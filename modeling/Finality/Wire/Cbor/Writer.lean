import Finality.Datum
import Finality.Text.Utf8
import Finality.Wire.Cbor.Head

/-!
# Writing canonical CBOR

Every datum that CBOR has a form for is written in one way: heads are as short as
possible, integers outside 64 bits are byte strings under the tags 2 and 3, floating-point
numbers take the shortest width that keeps their value, and the entries of a map are
sorted by the length and then by the bytes of their written keys.
-/

namespace Finality.Cbor

/-- The fewest bytes that hold a number, most significant first. -/
def naturalBytes (value : Nat) : Bytes :=
  beBytes ((Nat.log2 value) / 8 + 1) value

/-- A byte string. -/
def writeBytes (data : Bytes) : Bytes := writeHead .bytes data.length ++ data

/-- The number that stands for an integer: negative ones are counted down from minus one. -/
def magnitude (value : Int) : Nat :=
  if 0 ≤ value then value.toNat else (-1 - value).toNat

/-- An integer of any size. -/
def writeInt (value : Int) : Bytes :=
  if magnitude value < capacity 8 then
    writeHead (if 0 ≤ value then .unsigned else .negative) (magnitude value)
  else
    writeHead .tag (if 0 ≤ value then 2 else 3) ++ writeBytes (naturalBytes (magnitude value))

/-- A text. -/
def writeText (text : String) : Bytes :=
  let data := utf8 text
  writeHead .text data.length ++ data

/-- A floating-point number in the shortest width that keeps its value. -/
def writeFloat (value : Binary64) : Bytes :=
  if value.isNaN then [0xf9, 0x7e, 0x00]
  else if value.isInfinite then [0xf9, if value.isNegative then 0xfc else 0x7c, 0x00]
  else
    match value.narrow? 5 10, value.narrow? 8 23 with
    | some half, _ => 0xf9 :: beBytes 2 half
    | none, some single => 0xfa :: beBytes 4 single
    | none, none => 0xfb :: beBytes 8 value.bits

/-- The order of byte strings in which the first differing byte decides. -/
def bytesBefore : Bytes → Bytes → Bool
  | _, [] => false
  | [], _ :: _ => true
  | left :: lefts, right :: rights =>
    left < right || (left == right && bytesBefore lefts rights)

/-- The order of written keys: shorter ones first, and among equals by their bytes. -/
def keyBefore (left right : Bytes) : Bool :=
  left.length < right.length || (left.length == right.length && bytesBefore left right)

/-- A written entry, put in its place among sorted ones. -/
def placeEntry (entry : Bytes × Bytes) : List (Bytes × Bytes) → List (Bytes × Bytes)
  | [] => [entry]
  | other :: entries =>
    if keyBefore other.1 entry.1 then other :: placeEntry entry entries
    else entry :: other :: entries

/-- Written entries in the order of their keys. -/
def sortEntries : List (Bytes × Bytes) → List (Bytes × Bytes)
  | [] => []
  | entry :: entries => placeEntry entry (sortEntries entries)

mutual

/-- A datum in canonical form. -/
def write : Datum → Bytes
  | .null => [0xf6]
  | .bool value => [if value then 0xf5 else 0xf4]
  | .int value => writeInt value
  | .float value => writeFloat value
  | .text value => writeText value
  | .bytes value => writeBytes value
  | .list items => writeHead .array items.length ++ (writeItems items).flatten
  | .tuple items => writeHead .array items.length ++ (writeItems items).flatten
  | .map entries =>
    writeHead .map entries.length
      ++ (sortEntries (writeEntries entries)).flatMap fun entry => entry.1 ++ entry.2
  | _ => []

/-- Data in canonical form. -/
def writeItems : List Datum → List Bytes
  | [] => []
  | item :: items => write item :: writeItems items

/-- The keys and values of a map in canonical form. -/
def writeEntries : List (Datum × Datum) → List (Bytes × Bytes)
  | [] => []
  | (key, value) :: entries => (write key, write value) :: writeEntries entries

end

mutual

/-- Whether every length in a datum fits the eight bytes that a head has for it. -/
def fits : Datum → Bool
  | .int value => (naturalBytes (magnitude value)).length < capacity 8
  | .text text => (utf8 text).length < capacity 8
  | .bytes data => data.length < capacity 8
  | .list items | .tuple items => items.length < capacity 8 && fitsItems items
  | .map entries => entries.length < capacity 8 && fitsEntries entries
  | _ => true

/-- Whether every length in some data fits. -/
def fitsItems : List Datum → Bool
  | [] => true
  | item :: items => fits item && fitsItems items

/-- Whether every length in the entries of a map fits. -/
def fitsEntries : List (Datum × Datum) → Bool
  | [] => true
  | (key, value) :: entries => fits key && fits value && fitsEntries entries

end

/-- Why a datum has no CBOR form. -/
inductive Unwritable where
  /-- It is a value that the form has no items for. -/
  | type
  /-- It is a text with an unpaired surrogate. -/
  | brokenText
deriving DecidableEq

/-- The first fault of some outcomes. -/
def firstFault (faults : List (Option Unwritable)) : Option Unwritable := faults.findSome? id

/-- The value of an entry, put in its place among those of written keys. -/
def placeValue {α : Type} (key : Bytes) (value : α) : List (Bytes × α) → List (Bytes × α)
  | [] => [(key, value)]
  | other :: entries =>
    if keyBefore other.1 key then other :: placeValue key value entries
    else (key, value) :: other :: entries

mutual

/-- Why a datum has no CBOR form: the first fault on the way. The keys of a map are written
first, in their order, and then its values in the order of the written keys. -/
def unwritable? : Datum → Option Unwritable
  | .brokenText _ => some .brokenText
  | .list items | .tuple items => firstFault (unwritableItems items)
  | .map entries =>
    (firstFault (unwritableKeys entries)).or
      (firstFault ((unwritableValues entries).map (·.2)))
  | .null | .bool _ | .int _ | .float _ | .text _ | .bytes _ => none
  | _ => some .type

/-- Why the items of a list have no CBOR form. -/
def unwritableItems : List Datum → List (Option Unwritable)
  | [] => []
  | item :: items => unwritable? item :: unwritableItems items

/-- Why the keys of a map have no CBOR form. -/
def unwritableKeys : List (Datum × Datum) → List (Option Unwritable)
  | [] => []
  | (key, _) :: entries => unwritable? key :: unwritableKeys entries

/-- Why the values of a map have no CBOR form, in the order of their written keys. -/
def unwritableValues : List (Datum × Datum) → List (Bytes × Option Unwritable)
  | [] => []
  | (key, value) :: entries =>
    placeValue (write key) (unwritable? value) (unwritableValues entries)

end

end Finality.Cbor
