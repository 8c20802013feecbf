import Finality.Bytes.Endian
import Finality.Text.Utf8
import Finality.Datum

/-!
# Shapes

A `Shape` describes an item of the compact form that is put together by hand, without a
type of its own. `Shape.write` writes a datum of any type. Writing that fails part of the way
keeps the bytes written before the fault.
-/

namespace Finality

/-- The shapes of items. -/
inductive Shape where
  /-- An unsigned integer of `width` bytes. -/
  | uint (width : Nat)
  /-- A byte string of a given size, which should be a number. -/
  | fixed (size : Datum)
  /-- A byte string with its length. -/
  | bytes
  /-- A text with its length. -/
  | text
  /-- An optional item. -/
  | option (item : Shape)
  /-- A sequence of items. -/
  | list (item : Shape)
  /-- No item: there is no shape of such a name. -/
  | unknown
  /-- No item: something is given besides what the shape takes, or is missing. -/
  | illFitting

/-- Why a datum cannot be written in a shape. -/
inductive WriteFault where
  /-- The datum is no integer of so many bits. -/
  | outOfRange (bits : Nat) (got : Datum)
  /-- A byte string has the wrong size. -/
  | size (expected : Datum) (got : Nat)
  /-- The datum has no items or no bytes. -/
  | wrongType
  /-- The datum is no text. -/
  | notText
  /-- There is no shape of such a name. -/
  | unknown
  /-- The text has an unpaired surrogate. -/
  | brokenText (codes : List Nat)

/-- The text of a fault, where the library has one for it. -/
def WriteFault.message? : WriteFault → Option String
  | outOfRange bits got => some ("u" ++ toString bits ++ " out of range: " ++ got.shown)
  | size expected got =>
    some ("expected " ++ expected.display ++ " bytes, got " ++ toString got)
  | _ => none

/-- What writing produced: bytes, and the fault that ended it. -/
structure Written where
  /-- The bytes written. -/
  bytes : Bytes
  /-- The fault that ended the writing, if one did. -/
  fault : Option WriteFault

namespace Written

/-- Bytes without a fault. -/
def done (bytes : Bytes) : Written := ⟨bytes, none⟩

/-- A fault before any byte. -/
def failed (fault : WriteFault) : Written := ⟨[], some fault⟩

/-- More writing after writing that succeeded. -/
def andThen (first next : Written) : Written :=
  match first.fault with
  | some _ => first
  | none => ⟨first.bytes ++ next.bytes, next.fault⟩

end Written

namespace Shape

/-- The shape with a name, where the sizes are what is given besides the item. The marks of options
and sequences stand before the name of their item. -/
def ofName (sizes : List Datum) : List Char → Shape
  | 'o' :: 'p' :: 't' :: 'i' :: 'o' :: 'n' :: '_' :: name => option (ofName sizes name)
  | 's' :: 'e' :: 'q' :: '_' :: name => list (ofName sizes name)
  | name =>
    match String.ofList name, sizes with
    | "u8", [] => uint 1
    | "u32", [] => uint 4
    | "u64", [] => uint 8
    | "u128", [] => uint 16
    | "bytes_", [] => bytes
    | "string", [] => text
    | "fixed", [size] => fixed size
    | "u8", _ | "u32", _ | "u64", _ | "u128", _ | "bytes_", _ | "string", _ | "fixed", _ =>
      illFitting
    | _, _ => unknown

/-- Whether a shape holds other items. -/
def isNested : Shape → Bool
  | option _ | list _ => true
  | _ => false

/-- A number in a fixed number of bytes. -/
def writeUint (width : Nat) (datum : Datum) : Written :=
  match datum with
  | .int value =>
    if 0 ≤ value ∧ value < capacity width then .done (leBytes width value.toNat)
    else .failed (.outOfRange (8 * width) datum)
  | _ => .failed (.outOfRange (8 * width) datum)

/-- A length in four bytes. -/
def writeLength (length : Nat) : Written := writeUint 4 (.nat length)

/-- A byte string with its length. -/
def writeBytes (datum : Datum) : Written :=
  match datum with
  | .bytes data => (writeLength data.length).andThen (.done data)
  | datum =>
    match datum.elements? with
    | some items => (writeLength items.length).andThen (.failed .wrongType)
    | none => .failed .wrongType

/-- Write items one after the other. -/
def writeItems (write : Datum → Written) : List Datum → Written
  | [] => .done []
  | item :: items => (write item).andThen (writeItems write items)

/-- A datum in a shape. -/
def write : Shape → Datum → Written
  | uint width, datum => writeUint width datum
  | fixed size, datum =>
    match datum.elements? with
    | none => .failed .wrongType
    | some items =>
      if !(Datum.nat items.length).sameNumber size then .failed (.size size items.length)
      else
        match datum with
        | .bytes data => .done data
        | _ => .failed .wrongType
  | bytes, datum => writeBytes datum
  | text, datum =>
    match datum with
    | .text value => writeBytes (.bytes (utf8 value))
    | .brokenText codes => .failed (.brokenText codes)
    | _ => .failed .notText
  | option item, datum =>
    match datum with
    | .null => writeUint 1 (.int 0)
    | datum => (writeUint 1 (.int 1)).andThen (item.write datum)
  | list item, datum =>
    match datum.elements? with
    | some items => (writeLength items.length).andThen (writeItems item.write items)
    | none => .failed .wrongType
  | unknown, _ => .failed .unknown
  | illFitting, _ => .failed .wrongType

/-- A datum in the shape of a name. An item inside another is given nothing but itself. -/
def writeNamed (name : String) (datum : Datum) (sizes : List Datum) : Written :=
  let shape := ofName sizes name.toList
  (if shape.isNested then ofName [] name.toList else shape).write datum

end Shape

end Finality
