import Finality.Wire.Fault
import Finality.Wire.Shape

/-!
# Reading by hand

A `Tape` is an input with a position that steps of any kind can move. A step takes a slice of
the input, which ends where the position will be. A size below zero moves the position back, and a
position below zero is counted from the end of the input, so a slice can hold fewer
bytes than its size says.
-/

namespace Finality

/-- An input and a position in it. -/
structure Tape where
  input : Bytes
  offset : Int

/-- Why a step gives no item. -/
inductive TapeFault where
  /-- The bytes are refused. -/
  | refused (report : Report)
  /-- A size is no number, or something is given besides what the item takes. -/
  | wrongType
  /-- There is no byte in a slice. -/
  | noByte
  /-- There is no shape of such a name. -/
  | unknown

/-- A step on a tape. -/
abbrev TapeStep (α : Type) := ExceptT TapeFault (StateM Tape) α

namespace Tape

/-- The start of an input. -/
def start (input : Bytes) : Tape := ⟨input, 0⟩

/-- The number of bytes after the position. -/
def remaining (tape : Tape) : Int := tape.input.length - tape.offset

/-- A position in the input, where those below zero count from its end. -/
def place (tape : Tape) (position : Int) : Nat :=
  if position < 0 then (position + tape.input.length).toNat else position.toNat

/-- The bytes from one position to another. -/
def slice (tape : Tape) (first last : Int) : Bytes :=
  let first := tape.place first
  (tape.input.drop first).take (tape.place last - first)

end Tape

namespace TapeStep

/-- Refuse the bytes. -/
def refuse {α : Type} (message : String) (data : Fields) : TapeStep α :=
  throw (.refused (.of .decode message data))

/-- Whether more bytes are wanted than there are, and the size if it is an integer. -/
def wanted (tape : Tape) (size : Datum) : Except TapeFault (Bool × Option Int) :=
  match size with
  | .float value =>
    .ok (!value.isNaN && !value.isBelow tape.remaining
      && value.toInt? != some tape.remaining, none)
  | size =>
    match size.integral? with
    | some size => .ok (tape.remaining < size, some size)
    | none => .error .wrongType

/-- Take a slice of a given size. -/
def take (size : Datum) : TapeStep Bytes := do
  let tape ← get
  match wanted tape size with
  | .error fault => throw fault
  | .ok (true, _) => refuse "truncated" [("offset", .int tape.offset), ("wanted", size)]
  | .ok (false, none) => throw .wrongType
  | .ok (false, some size) =>
    set { tape with offset := tape.offset + size }
    return tape.slice tape.offset (tape.offset + size)

/-- Take an unsigned integer of `width` bytes. -/
def uint (width : Nat) : TapeStep Nat := do
  let data ← take (.nat width)
  if width = 1 ∧ data.isEmpty then throw .noByte
  return leValue data

/-- Take a byte string with its length in front. -/
def bytes : TapeStep Bytes := do
  let size ← uint 4
  take (.nat size)

/-- Take items one after the other. -/
def items (item : TapeStep Datum) : Nat → TapeStep (List Datum)
  | 0 => return []
  | count + 1 => return (← item) :: (← items item count)

/-- Take an item of a shape. -/
def ofShape : Shape → TapeStep Datum
  | .uint width => return .nat (← uint width)
  | .fixed size => return .bytes (← take size)
  | .bytes => return .bytes (← bytes)
  | .text => do
    match ofUtf8? (← bytes) with
    | some text => return .text text
    | none => refuse DecodeFault.utf8.message []
  | .option item => do
    match ← uint 1 with
    | 0 => return .null
    | 1 => ofShape item
    | tag => refuse "invalid option tag" [("tag", .nat tag), ("offset", .int ((← get).offset - 1))]
  | .list item => do
    let count ← uint 4
    if (← get).remaining < count then
      refuse "sequence length exceeds input" [("count", .nat count)]
    return .list (← items (ofShape item) count)
  | .unknown => throw .unknown
  | .illFitting => throw .wrongType

/-- Refuse bytes that are left over. -/
def finish : TapeStep Datum := do
  let tape ← get
  if tape.offset = tape.input.length then return .null
  refuse "trailing bytes" [("offset", .int tape.offset), ("extra", .int tape.remaining)]

/-- The step with a name. -/
def ofName (name : String) (sizes : List Datum) : TapeStep Datum :=
  match name, sizes with
  | "remaining", _ => return .int (← get).remaining
  | "finish", [] => finish
  | "finish", _ => throw .wrongType
  | name, sizes => ofShape (.ofName sizes name.toList)

end TapeStep

end Finality
