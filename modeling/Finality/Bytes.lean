/-!
# Byte strings

Byte strings are lists of bytes, ordered lexicographically. A `Hash` is a byte string
of exactly 32 bytes; the length travels with the value, so nothing downstream checks
it a second time.
-/

namespace Finality

/-- A byte string. -/
abbrev Bytes := List UInt8

/-- The number of byte strings of a width: the numbers below it are those that fit. -/
def capacity : (width : Nat) → Nat
  | 0 => 1
  | width + 1 => 256 * capacity width

/-- The number of bytes in a hash. -/
def hashSize : Nat := 32

/-- A byte string of exactly 32 bytes. -/
structure Hash where
  bytes : Bytes
  size_eq : bytes.length = hashSize
deriving DecidableEq

namespace Hash

/-- A byte string as a hash, when it has the right length. -/
def ofBytes? (bytes : Bytes) : Option Hash :=
  if h : bytes.length = hashSize then some ⟨bytes, h⟩ else none

/-- The hash of 32 zero bytes, which no state commits to. -/
def zero : Hash := ⟨List.replicate hashSize 0, List.length_replicate⟩

theorem ext_bytes {left right : Hash} (h : left.bytes = right.bytes) : left = right := by
  cases left; cases right; cases h; rfl

@[simp] theorem ofBytes?_bytes (hash : Hash) : ofBytes? hash.bytes = some hash := by
  simp [ofBytes?, hash.size_eq]

end Hash

instance : Inhabited Hash := ⟨Hash.zero⟩

end Finality
