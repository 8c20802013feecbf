import Finality.Wire.Reader

/-!
# Layouts

A `Layout` says how the values of a type are set out in compact form: how they are
written, how they are read, and which of them the form has room for. Integers have a
fixed width, least significant byte first; byte strings, texts and sequences have their
length in four bytes in front; an optional item has a mark of zero or one in front.
-/

namespace Finality

/-- How the values of a type are set out in bytes. -/
structure Layout (α : Type) where
  write : α → Bytes
  read : Reader α
  Fits : α → Prop := fun _ => True

namespace Layout

/-- The largest length that four bytes hold, plus one. -/
def lengthLimit : Nat := capacity 4

/-- A 64-bit word. -/
def word : Layout UInt64 where
  write value := leBytes 8 value.toNat
  read := return UInt64.ofNat (← Reader.uint 8)

/-- An unsigned integer of `width` bytes. -/
def uint (width : Nat) : Layout Nat where
  write value := leBytes width value
  read := Reader.uint width
  Fits value := value < capacity width

/-- A byte string of a fixed size, without a length in front. -/
def sized (size : Nat) : Layout { data : Bytes // data.length = size } where
  write data := data.val
  read := Reader.sized size

/-- A hash. -/
def hash : Layout Hash where
  write hash := hash.bytes
  read := do
    let data ← Reader.sized hashSize
    return ⟨data.val, data.property⟩

/-- A byte string with its length in front. -/
def bytes : Layout Bytes where
  write data := leBytes 4 data.length ++ data
  read := Reader.bytes
  Fits data := data.length < lengthLimit

/-- A text with the length of its UTF-8 bytes in front. -/
def text : Layout String where
  write text := bytes.write (utf8 text)
  read := Reader.text
  Fits text := (utf8 text).length < lengthLimit

variable {α β : Type}

/-- An item followed by one whose layout may depend on it. -/
def dependent {β : α → Type} (first : Layout α) (second : (value : α) → Layout (β value)) :
    Layout (Sigma β) where
  write pair := first.write pair.1 ++ (second pair.1).write pair.2
  read := do
    let value ← first.read
    return ⟨value, ← (second value).read⟩
  Fits pair := first.Fits pair.1 ∧ (second pair.1).Fits pair.2

/-- Two items, one after the other. -/
def pair (first : Layout α) (second : Layout β) : Layout (α × β) where
  write values := first.write values.1 ++ second.write values.2
  read := return (← first.read, ← second.read)
  Fits values := first.Fits values.1 ∧ second.Fits values.2

/-- An optional item. -/
def option (item : Layout α) : Layout (Option α) where
  write
    | none => leBytes 1 0
    | some value => leBytes 1 1 ++ item.write value
  read := Reader.option item.read
  Fits
    | none => True
    | some value => item.Fits value

/-- A sequence of items, with their number in front. -/
def list (item : Layout α) : Layout (List α) where
  write values := leBytes 4 values.length ++ values.flatMap item.write
  read := Reader.list item.read
  Fits values := values.length < lengthLimit ∧ ∀ value ∈ values, item.Fits value

/-- Values of another type, set out as their `parts`. Reading `build`s the value of the parts,
which can fail. -/
def via (layout : Layout α) (parts : β → α) (build : α → Except FormFault β) :
    Layout β where
  write value := layout.write (parts value)
  read := do
    match build (← layout.read) with
    | .ok value => return value
    | .error fault => throw fault
  Fits value := layout.Fits (parts value)

end Layout

end Finality
