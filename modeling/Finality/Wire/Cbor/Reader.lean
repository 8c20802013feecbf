import Finality.Datum
import Finality.Text.Utf8
import Finality.Wire.Cbor.Head
import Finality.Wire.Cbor.Tag

/-!
# Reading CBOR

The reader takes the first item of a byte string and any way of writing it: heads of any
width, open lengths, repeated keys. A repeated key keeps its first place and takes its
last value. Inside keys and under tags the containers are those that do not change.
Containers and tags nest at most as deep as the host's reader goes.

Two pairs of tags let an item stand in more than one place. A string inside a namespace can be
named by its number, and a shared item by its own.
-/

namespace Finality.Cbor

variable [Host]

/-- An item that is shared. -/
inductive Shared where
  /-- The item has been read. -/
  | known (item : Datum)
  /-- The item is being read. It can stand inside itself if it is a container that changes. -/
  | pending (container : Option Major)

/-- What a reader keeps in mind. -/
structure Memory where
  /-- The shared items so far, in order. -/
  shared : List Shared := []
  /-- The strings of the namespace, in order, if there is one. -/
  strings : Option (List Datum) := none

namespace Memory

/-- The fewest bytes of a string that is numbered, where `number` is its number: a reference to it
has to be shorter than the string. -/
def leastSize (number : Nat) : Nat :=
  if number < 24 then 3
  else if number < capacity 1 then 4
  else if number < capacity 2 then 5
  else if number < capacity 4 then 7
  else 11

/-- Number a string of a given size, if it is worth it. -/
def addString (memory : Memory) (size : Nat) (string : Datum) : Memory :=
  match memory.strings with
  | none => memory
  | some strings =>
    if leastSize strings.length ≤ size then { memory with strings := some (strings ++ [string]) }
    else memory

/-- The string with a number. -/
def string? (memory : Memory) : Datum → Option Datum
  | .int number => if 0 ≤ number then memory.strings.bind (·[number.toNat]?) else none
  | _ => none

/-- A container inside itself. -/
def cycle (container : Major) : Datum :=
  if container = .map then .special ⟨"dict", "\x7b...\x7d", .ok "\x7b...\x7d", .cycle⟩
  else .special ⟨"list", "[...]", .ok "[...]", .cycle⟩

/-- The shared item with a number. -/
def shared? (memory : Memory) : Datum → Option Datum
  | .int number =>
    if number < 0 then none
    else
      match memory.shared[number.toNat]? with
      | some (.known item) => some item
      | some (.pending container) => container.map cycle
      | none => none
  | _ => none

/-- The container that an item of an input is, if it is one. -/
def containerAt (input : Bytes) : Option Major :=
  match readHead input with
  | some (.array, _) => some .array
  | some (.map, _) => some .map
  | _ => none

/-- Number a string that was read in one piece. -/
def addChunks (memory : Memory) (argument : Argument) (string : Datum) : Memory :=
  match argument with
  | .number _ size => memory.addString size string
  | .indefinite => memory

end Memory

/-- The chunks of a string of open length, up to the break. -/
def readChunks (major : Major) : Nat → Bytes → Option (List Bytes × Bytes)
  | 0, _ => none
  | fuel + 1, input =>
    match input with
    | 0xff :: rest => some ([], rest)
    | input =>
      match readHead input with
      | some (found, .number _ size, rest) =>
        if found = major ∧ size ≤ rest.length then
          (readChunks major fuel (rest.drop size)).map fun (chunks, rest') =>
            (rest.take size :: chunks, rest')
        else none
      | _ => none

/-- The chunks of a string: one of the given size, or those up to the break. -/
def readString (major : Major) (argument : Argument) (input : Bytes) :
    Option (List Bytes × Bytes) :=
  match argument with
  | .number _ size =>
    if size ≤ input.length then some ([input.take size], input.drop size) else none
  | .indefinite => readChunks major (input.length + 1) input

/-- The text of chunks, each of which is UTF-8 by itself. -/
def joinTexts : List Bytes → Option String
  | [] => some ""
  | chunk :: chunks =>
    match ofUtf8? chunk, joinTexts chunks with
    | some text, some texts => some (text ++ texts)
    | _, _ => none

/-- An item that is a number, a truth value or one of the other simple values. -/
def readSimple (width value : Nat) : Option Datum :=
  match width with
  | 0 =>
    if value = 20 then some (.bool false)
    else if value = 21 then some (.bool true)
    else if value = 22 then some .null
    else if value = 23 then some (.special .undefined)
    else some (.special (.simple value))
  | 1 => if value < 32 then none else some (.special (.simple value))
  | 2 => some (.float (Binary64.widen 5 10 value))
  | 4 => some (.float (Binary64.widen 8 23 value))
  | _ => some (.float ⟨value⟩)

/-- The items of a set, each of them once. -/
def distinct (items : List Datum) : List Datum :=
  items.foldl (fun found item => if found.any (Datum.sameKey item) then found else found ++ [item])
    []

/-- The set of some items, if nothing in them can change. -/
def setOf? (frozen : Bool) : Datum → Option Datum
  | .tuple items =>
    if Datum.areKeys items then some (.set frozen (distinct items)) else none
  | _ => none

mutual

/-- The item at the start of a byte string, the memory and the bytes after it. At most `depth`
containers and tags may nest, and `frozen` says whether containers are those that do not
change. -/
def readItem (frozen : Bool) (depth : Nat) :
    Nat → Memory → Bytes → Option (Datum × Memory × Bytes)
  | 0, _, _ => none
  | fuel + 1, memory, input =>
    match readHead input with
    | none => none
    | some (major, argument, rest) =>
      match major, argument with
      | .unsigned, .number _ value => some (.int value, memory, rest)
      | .negative, .number _ value => some (.int (-1 - (value : Int)), memory, rest)
      | .bytes, argument =>
        (readString .bytes argument rest).map fun (chunks, rest) =>
          let item : Datum := .bytes chunks.flatten
          (item, memory.addChunks argument item, rest)
      | .text, argument =>
        match readString .text argument rest with
        | some (chunks, rest) =>
          (joinTexts chunks).map fun text =>
            (.text text, memory.addChunks argument (.text text), rest)
        | none => none
      | .array, argument =>
        match depth with
        | 0 => none
        | depth + 1 =>
          (readItems frozen depth fuel argument memory rest).map fun (items, memory, rest) =>
            (if frozen then .tuple items else .list items, memory, rest)
      | .map, argument =>
        match depth with
        | 0 => none
        | depth + 1 =>
          (readEntries frozen depth fuel [] argument memory rest).map
            fun (entries, memory, rest) =>
              (if frozen then .frozenMap entries else .map entries, memory, rest)
      | .tag, .number _ tag =>
        match depth with
        | 0 => none
        | depth + 1 => readTagged frozen depth tag fuel memory rest
      | .simple, .number width value =>
        (readSimple width value).map fun datum => (datum, memory, rest)
      | _, .indefinite => none
termination_by structural fuel => fuel

/-- The item under a tag. -/
def readTagged (frozen : Bool) (depth tag : Nat) :
    Nat → Memory → Bytes → Option (Datum × Memory × Bytes)
  | 0, _, _ => none
  | fuel + 1, memory, input =>
    match tag with
    | 25 => do
      let (item, memory, rest) ← readItem true depth fuel memory input
      return (← memory.string? item, memory, rest)
    | 28 => do
      let number := memory.shared.length
      let container := if frozen then none else Memory.containerAt input
      let opened := { memory with shared := memory.shared ++ [.pending container] }
      let (item, memory, rest) ← readItem frozen depth fuel opened input
      return (item, { memory with shared := memory.shared.set number (.known item) }, rest)
    | 29 => do
      let (item, memory, rest) ← readItem true depth fuel memory input
      return (← memory.shared? item, memory, rest)
    | 256 => do
      let (item, inner, rest) ←
        readItem frozen depth fuel { memory with strings := some [] } input
      return (item, { inner with strings := memory.strings }, rest)
    | 258 => do
      let (item, memory, rest) ← readItem true depth fuel memory input
      return (← setOf? frozen item, memory, rest)
    | tag => do
      let (item, memory, rest) ← readItem true depth fuel memory input
      return (← tagged? tag item, memory, rest)
termination_by structural fuel => fuel

/-- The items of an array: a number of them, or those up to the break. -/
def readItems (frozen : Bool) (depth : Nat) :
    Nat → Argument → Memory → Bytes → Option (List Datum × Memory × Bytes)
  | 0, _, _, _ => none
  | fuel + 1, argument, memory, input =>
    match argument, input with
    | .number _ 0, input => some ([], memory, input)
    | .indefinite, 0xff :: rest => some ([], memory, rest)
    | argument, input =>
      match readItem frozen depth fuel memory input with
      | none => none
      | some (item, memory, rest) =>
        (readItems frozen depth fuel argument.fewer memory rest).map
          fun (items, memory, rest) => (item :: items, memory, rest)
termination_by structural fuel => fuel

/-- The entries of a map, added to those before: a number of them, or those up to the break. -/
def readEntries (frozen : Bool) (depth : Nat) :
    Nat → List (Datum × Datum) → Argument → Memory → Bytes →
      Option (List (Datum × Datum) × Memory × Bytes)
  | 0, _, _, _, _ => none
  | fuel + 1, entries, argument, memory, input =>
    match argument, input with
    | .number _ 0, input => some (entries, memory, input)
    | .indefinite, 0xff :: rest => some (entries, memory, rest)
    | argument, input =>
      match readItem true depth fuel memory input with
      | none => none
      | some (key, memory, rest) =>
        match readItem frozen depth fuel memory rest with
        | none => none
        | some (value, memory, rest) =>
          if key.isKey then
            readEntries frozen depth fuel (Datum.insertEntry key value entries) argument.fewer
              memory rest
          else none
termination_by structural fuel => fuel

end

/-- The first item of a byte string. -/
def read? (input : Bytes) : Option Datum :=
  (readItem false Host.cborDepth (3 * input.length + 3) {} input).map (·.1)

end Finality.Cbor
