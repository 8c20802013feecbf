import Finality.Bytes.Endian
import Finality.Text.Utf8
import Finality.Wire.Fault

/-!
# Reading byte by byte

A `Reader` takes items off the front of a byte string and keeps count of the bytes taken.
A reader that fails leaves the input where the failing item began, or behind the marks
and lengths that it had already taken.
-/

namespace Finality

/-- The part of an input that is still to be read. -/
structure Cursor where
  offset : Nat
  rest : Bytes
deriving DecidableEq

/-- The start of an input. -/
def Cursor.start (input : Bytes) : Cursor := ⟨0, input⟩

/-- A computation that reads from an input. -/
abbrev Reader (α : Type) := ExceptT FormFault (StateM Cursor) α

namespace Reader

/-- Refuse the input. -/
def fail {α : Type} (fault : DecodeFault) : Reader α := throw (.decode fault)

/-- Take a byte string of a given size. -/
def sized (size : Nat) : Reader { data : Bytes // data.length = size } := fun cursor =>
  if h : cursor.rest.length < size then
    (.error (.decode (.truncated cursor.offset size)), cursor)
  else
    (.ok ⟨cursor.rest.take size, by simp only [List.length_take]; omega⟩,
      ⟨cursor.offset + size, cursor.rest.drop size⟩)

/-- Take a number of bytes. -/
def take (count : Nat) : Reader Bytes := return (← sized count).val

/-- Take an unsigned integer of `width` bytes. -/
def uint (width : Nat) : Reader Nat := return leValue (← take width)

/-- Take a byte string with its length in front. -/
def bytes : Reader Bytes := do
  let size ← uint 4
  take size

/-- Take a text with its length in front. -/
def text : Reader String := do
  match ofUtf8? (← bytes) with
  | some text => return text
  | none => fail .utf8

/-- Take an optional item: a mark, and the item if the mark is one. -/
def option {α : Type} (item : Reader α) : Reader (Option α) := do
  match ← uint 1 with
  | 0 => return none
  | 1 => return some (← item)
  | tag => fun cursor => (.error (.decode (.optionTag tag (cursor.offset - 1))), cursor)

/-- Take a number of items. -/
def items {α : Type} (item : Reader α) : Nat → Reader (List α)
  | 0 => return []
  | count + 1 => return (← item) :: (← items item count)

/-- Refuse a sequence that has more items than the input has bytes, since every item takes at
least one. -/
def checkCount (count : Nat) : Reader Unit := fun cursor =>
  if cursor.rest.length < count then (.error (.decode (.sequenceLength count)), cursor)
  else (.ok (), cursor)

/-- Take a sequence: the number of items, and the items. -/
def list {α : Type} (item : Reader α) : Reader (List α) := do
  let count ← uint 4
  checkCount count
  items item count

/-- Refuse bytes that are left over. -/
def finish : Reader Unit := fun cursor =>
  if cursor.rest.isEmpty then (.ok (), cursor)
  else (.error (.decode (.trailing cursor.offset cursor.rest.length)), cursor)

/-- Read a whole input. -/
def runOn {α : Type} (reader : Reader α) (input : Bytes) : Except FormFault α :=
  ((do let value ← reader; finish; return value : Reader α) (Cursor.start input)).1

end Reader

end Finality
