import Mathlib.Algebra.Group.Nat.Defs
import Finality.Wire.Cbor.Reader
import Finality.Wire.Cbor.Writer

/-!
# Items without items inside

A head that was written is read back, with the shortest width that holds its argument
(`readHead_writeHead`), and so is every item that is not made of other items: integers of
any size, byte strings, texts, truth values and the item that stands for no value. None of
them changes what a reader keeps in mind, unless it numbers strings.
-/

namespace Finality.Cbor

/-! ## Heads -/

@[simp] theorem Major.ofNumber_number (major : Major) : ofNumber major.number = major := by
  cases major <;> rfl

theorem Major.number_lt (major : Major) : major.number < 8 := by
  cases major <;> decide

/-- The first byte of a head holds the major type and the additional information. -/
theorem toNat_firstByte (major : Major) {info : Nat} (small : info < 32) :
    (UInt8.ofNat (32 * major.number + info)).toNat = 32 * major.number + info := by
  have bound := major.number_lt
  apply UInt8.toNat_ofNat_of_lt'
  change _ < 256
  omega

theorem readHead_cons (major : Major) {info : Nat} (small : info < 32) (rest : Bytes) :
    readHead (UInt8.ofNat (32 * major.number + info) :: rest) =
      if info < 24 then some (major, .number 0 info, rest)
      else if info < 28 then
        if rest.length < argumentWidth info then none
        else some (major, .number (argumentWidth info) (beValue (rest.take (argumentWidth info))),
          rest.drop (argumentWidth info))
      else if info = 31 then some (major, .indefinite, rest)
      else none := by
  have quotient : (32 * major.number + info) / 32 = major.number := by omega
  have remainder : (32 * major.number + info) % 32 = info := by omega
  simp only [readHead, toNat_firstByte major small, quotient, remainder, Major.ofNumber_number]

/-- An argument that follows its head in a number of bytes. -/
theorem readHead_wide (major : Major) {info value : Nat} (atLeast : 24 ≤ info)
    (atMost : info < 28) (holds : value < capacity (argumentWidth info)) (rest : Bytes) :
    readHead (UInt8.ofNat (32 * major.number + info) ::
        (beBytes (argumentWidth info) value ++ rest)) =
      some (major, .number (argumentWidth info) value, rest) := by
  have size : (beBytes (argumentWidth info) value).length = argumentWidth info :=
    length_beBytes _ _
  have enough : ¬(beBytes (argumentWidth info) value ++ rest).length < argumentWidth info := by
    rw [List.length_append, size]
    omega
  rw [readHead_cons major (by omega), if_neg (by omega), if_pos atMost, if_neg enough,
    List.take_left' size, List.drop_left' size, beValue_beBytes holds]

/-- A head is read back. -/
theorem readHead_writeHead (major : Major) {value : Nat} (holds : value < capacity 8)
    (rest : Bytes) :
    ∃ width, readHead (writeHead major value ++ rest) =
      some (major, .number width value, rest) := by
  simp only [writeHead]
  split
  · next small =>
    refine ⟨0, ?_⟩
    rw [List.singleton_append, readHead_cons major (by omega), if_pos small]
  · split
    · next fits => exact ⟨1, readHead_wide major (by decide) (by decide) fits rest⟩
    · split
      · next fits => exact ⟨2, readHead_wide major (by decide) (by decide) fits rest⟩
      · split
        · next fits => exact ⟨4, readHead_wide major (by decide) (by decide) fits rest⟩
        · exact ⟨8, readHead_wide major (by decide) (by decide) holds rest⟩

theorem length_writeHead_pos (major : Major) (value : Nat) :
    0 < (writeHead major value).length := by
  simp only [writeHead]
  split
  · exact Nat.one_pos
  · split
    · exact Nat.succ_pos _
    · split
      · exact Nat.succ_pos _
      · split <;> exact Nat.succ_pos _

/-! ## Strings -/

theorem readString_number (major : Major) (width : Nat) (data rest : Bytes) :
    readString major (.number width data.length) (data ++ rest) = some ([data], rest) := by
  rw [readString, if_pos (by simp), List.take_left, List.drop_left]

/-- Without a namespace, no string is numbered. -/
theorem Memory.addChunks_eq {memory : Memory} (unnumbered : memory.strings = none)
    (argument : Argument) (string : Datum) : memory.addChunks argument string = memory := by
  cases argument with
  | indefinite => rfl
  | number width size => rw [addChunks, addString, unnumbered]

theorem joinTexts_singleton (text : String) : joinTexts [utf8 text] = some text := by
  simp only [joinTexts, ofUtf8?_utf8, String.append_empty]

section

variable [Host] {frozen : Bool} {depth fuel : Nat} {memory : Memory}

theorem readItem_writeBytes {data : Bytes} (holds : data.length < capacity 8)
    (unnumbered : memory.strings = none) (rest : Bytes) :
    readItem frozen depth (fuel + 1) memory (writeBytes data ++ rest) =
      some (.bytes data, memory, rest) := by
  rcases readHead_writeHead .bytes holds (data ++ rest) with ⟨width, head⟩
  rw [readItem, writeBytes, List.append_assoc, head]
  simp only [readString_number, Option.map_some, Memory.addChunks_eq unnumbered,
    List.flatten_cons, List.flatten_nil, List.append_nil]

theorem readItem_writeText {text : String} (holds : (utf8 text).length < capacity 8)
    (unnumbered : memory.strings = none) (rest : Bytes) :
    readItem frozen depth (fuel + 1) memory (writeText text ++ rest) =
      some (.text text, memory, rest) := by
  rcases readHead_writeHead .text holds (utf8 text ++ rest) with ⟨width, head⟩
  rw [readItem, writeText]
  simp only [List.append_assoc, head, readString_number, joinTexts_singleton, Option.map_some,
    Memory.addChunks_eq unnumbered]

end

/-! ## Integers -/

theorem capacity_eq_pow (width : Nat) : capacity width = 2 ^ (8 * width) := by
  induction width with
  | zero => rfl
  | succ width ih =>
      rw [capacity, ih, Nat.mul_succ, Nat.pow_add, Nat.mul_comm]

theorem beValue_naturalBytes (value : Nat) : beValue (naturalBytes value) = value := by
  apply beValue_beBytes
  rw [capacity_eq_pow]
  apply Nat.lt_of_lt_of_le Nat.lt_log2_self
  apply Nat.pow_le_pow_right (by decide)
  omega

theorem magnitude_of_nonneg {value : Int} (nonneg : 0 ≤ value) :
    (magnitude value : Int) = value := by
  rw [magnitude, if_pos nonneg]
  omega

theorem magnitude_of_neg {value : Int} (negative : ¬0 ≤ value) :
    -1 - (magnitude value : Int) = value := by
  rw [magnitude, if_neg negative]
  omega

section

variable [Host] {frozen : Bool} {depth fuel : Nat} {memory : Memory}

theorem tagged_two (data : Bytes) : tagged? 2 (.bytes data) = some (.int (beValue data)) := rfl

theorem tagged_three (data : Bytes) :
    tagged? 3 (.bytes data) = some (.int (-1 - (beValue data : Int))) :=
  rfl

/-- An integer that fits is in its head alone. All others are byte strings under a tag. -/
theorem readItem_writeInt {value : Int}
    (holds : (naturalBytes (magnitude value)).length < capacity 8)
    (unnumbered : memory.strings = none) (rest : Bytes) :
    readItem frozen (depth + 1) (fuel + 3) memory (writeInt value ++ rest) =
      some (.int value, memory, rest) := by
  rw [writeInt]
  by_cases nonneg : 0 ≤ value
  · have equal := magnitude_of_nonneg nonneg
    rw [if_pos nonneg, if_pos nonneg]
    split
    · next plain =>
      rcases readHead_writeHead .unsigned plain rest with ⟨width, head⟩
      rw [readItem, head]
      simp only [equal]
    · rcases readHead_writeHead .tag (by decide : 2 < capacity 8)
        (writeBytes (naturalBytes (magnitude value)) ++ rest) with ⟨width, head⟩
      rw [readItem, List.append_assoc, head]
      simp only [readTagged, readItem_writeBytes holds unnumbered rest, Option.bind_eq_bind,
        Option.bind_some, tagged_two, beValue_naturalBytes, equal]
      rfl
  · have equal := magnitude_of_neg nonneg
    rw [if_neg nonneg, if_neg nonneg]
    split
    · next plain =>
      rcases readHead_writeHead .negative plain rest with ⟨width, head⟩
      rw [readItem, head]
      simp only [equal]
    · rcases readHead_writeHead .tag (by decide : 3 < capacity 8)
        (writeBytes (naturalBytes (magnitude value)) ++ rest) with ⟨width, head⟩
      rw [readItem, List.append_assoc, head]
      simp only [readTagged, readItem_writeBytes holds unnumbered rest, Option.bind_eq_bind,
        Option.bind_some, tagged_three, beValue_naturalBytes, equal]
      rfl

end

end Finality.Cbor
