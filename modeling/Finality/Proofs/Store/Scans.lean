import Mathlib.Data.List.Sort
import Finality.Proofs.Store.Content

/-!
# Scans of the backends

A memory tests every key for the stem. A table reads a range of keys, from the stem to
the least byte string above all that start with it, or without an end if all bytes of the
stem are 255. That range has exactly the keys with the stem (`Table.inRange_rangeEnd?`), so
backends with the same keys find the same ones (`scans_select_stem`). Either backend scans as
the map that it stands for (`Store.scan_eq`), and the other operations follow that map as well.
-/

namespace Finality

/-! ## The range of a stem -/

/-- The end of a range is found from the last byte on that can be raised. -/
theorem rangeEnd?_cons (first : UInt8) (rest : Bytes) :
    rangeEnd? (first :: rest) =
      match rangeEnd? rest with
      | some high => some (first :: high)
      | none => if first = 255 then none else some [first + 1] := by
  rw [rangeEnd?, rangeEnd?, List.reverse_cons, List.dropWhile_append]
  cases rest.reverse.dropWhile (· == 255) with
  | nil =>
      by_cases full : first = 255
      · simp [full]
      · simp [full]
  | cons last others => simp

example : rangeEnd? [97, 255] = some [98] := rfl

theorem byte_lt_add_one_iff {byte bound : UInt8} (below : bound ≠ 255) :
    byte < bound + 1 ↔ byte ≤ bound := by
  have small : bound.toNat ≠ 255 := fun equal => below (UInt8.toNat_inj.1 equal)
  have width := bound.toNat_lt
  have one : (1 : UInt8).toNat = 1 := rfl
  rw [UInt8.lt_iff_toNat_lt, UInt8.le_iff_toNat_le, UInt8.toNat_add]
  omega

theorem not_255_lt_byte (byte : UInt8) : ¬255 < byte := by
  have width := byte.toNat_lt
  have top : (255 : UInt8).toNat = 255 := rfl
  rw [UInt8.lt_iff_toNat_lt]
  omega

namespace Table

/-- The keys in the range of a stem are those that start with it. -/
theorem inRange_rangeEnd? (stem key : Bytes) :
    inRange stem (rangeEnd? stem) key = stem.isPrefixOf key := by
  induction stem generalizing key with
  | nil => simp [inRange, rangeEnd?]
  | cons first rest ih =>
      cases key with
      | nil => simp [inRange]
      | cons head tail =>
          rw [List.isPrefixOf_cons_cons, ← ih tail, rangeEnd?_cons]
          -- With another first byte, a key is below the stem or not below the end.
          by_cases same : first = head
          · subst same
            cases rangeEnd? rest with
            | some high => simp [inRange, List.cons_le_cons_iff]
            | none =>
                by_cases full : first = 255
                · simp [inRange, List.cons_le_cons_iff, full]
                · simp [inRange, List.cons_le_cons_iff, full, byte_lt_add_one_iff full,
                    List.cons_lt_cons_iff]
          · have apart : (first == head) = false := by simpa using same
            rw [apart, Bool.false_and]
            cases rangeEnd? rest with
            | some high =>
                simpa [inRange, List.cons_le_cons_iff, List.cons_lt_cons_iff, same,
                  Ne.symm same] using UInt8.le_of_lt
            | none =>
                by_cases full : first = 255
                · subst full
                  simp [inRange, List.cons_le_cons_iff, same, not_255_lt_byte]
                · simp [inRange, List.cons_le_cons_iff, full, byte_lt_add_one_iff full, same,
                    List.cons_lt_cons_iff]

/-- A key lies in a range if it is not below the start, and below the end where there is one. -/
theorem inRange_iff {low key : Bytes} {high : Option Bytes} :
    inRange low high key = true ↔ low ≤ key ∧ ∀ bound, high = some bound → key < bound := by
  cases high with
  | none => simp [inRange]
  | some bound => simp [inRange]

theorem isPrefix_iff {stem key : Bytes} :
    stem <+: key ↔ stem ≤ key ∧ ∀ bound, rangeEnd? stem = some bound → key < bound := by
  rw [← List.isPrefixOf_iff_prefix, ← inRange_rangeEnd?, inRange_iff]

theorem scan_eq (table : Table) (stem : Bytes) : table.scan stem = table.content.scan stem := by
  simp only [scan, inRange_rangeEnd?]
  rfl

end Table

/-! ## Operations on an open store -/

theorem Memory.scan_eq (memory : Memory) (stem : Bytes) :
    memory.scan stem = memory.content.scan stem := by
  have distinct : ((memory.entries.filter fun entry => stem.isPrefixOf entry.1).map (·.1)).Nodup :=
    memory.distinct.sublist (List.filter_sublist.map _)
  apply Entries.ext_mem (Records.ascending _) (Records.ascending_scan _ _)
  intro entry
  rcases entry with ⟨key, value⟩
  rw [← Records.get?_eq_some_iff, Records.get?_ofEntries_eq_some_iff distinct, Records.mem_scan,
    content, Records.get?_ofEntries_eq_some_iff memory.distinct, List.mem_filter,
    List.isPrefixOf_iff_prefix]

namespace Store

variable {store : Store} {records : Records}

theorem get?_eq (opened : store.content? = some records) (key : Bytes) :
    store.get? key = .ok (records.get? key) := by
  cases store with
  | memory memory =>
      cases opened
      exact congrArg Except.ok (Memory.get?_content memory key).symm
  | table kind table =>
      cases opened
      rfl
  | closed kind table => cases opened

theorem scan_eq (opened : store.content? = some records) (stem : Bytes) :
    store.scan stem = .ok (records.scan stem) := by
  cases store with
  | memory memory =>
      cases opened
      exact congrArg Except.ok (Memory.scan_eq memory stem)
  | table kind table =>
      cases opened
      exact congrArg Except.ok (Table.scan_eq table stem)
  | closed kind table => cases opened

theorem apply_ok (opened : store.content? = some records) (change : Write) :
    ∃ next, store.apply change = .ok next ∧ next.batch = store.batch ∧
      next.content? = some (records.apply change) := by
  cases store with
  | memory memory =>
      cases opened
      exact ⟨_, rfl, rfl, congrArg some (Memory.content_apply memory change)⟩
  | table kind table =>
      cases opened
      exact ⟨_, rfl, rfl, rfl⟩
  | closed kind table => cases opened

theorem content?_create (kind : StoreKind) : (Store.create kind).content? = some .empty := by
  cases kind with
  | memory => rfl
  | table => rfl
  | file => rfl

end Store

/-! ## The keys that a scan finds -/

namespace Records

/-- A scan meets the keys in ascending order. -/
theorem pairwise_keys_scan (records : Records) (stem : Bytes) :
    ((records.scan stem).map (·.1)).Pairwise (· < ·) :=
  List.pairwise_map.2 (records.ascending_scan stem)

theorem mem_keys_scan {records : Records} {stem key : Bytes} :
    key ∈ (records.scan stem).map (·.1) ↔
      key ∈ records.entries.map (·.1) ∧ stem <+: key := by
  simp only [List.mem_map, scan, List.mem_filter, List.isPrefixOf_iff_prefix]
  constructor
  · rintro ⟨entry, ⟨member, starts⟩, rfl⟩
    exact ⟨⟨entry, member, rfl⟩, starts⟩
  · rintro ⟨⟨entry, member, rfl⟩, starts⟩
    exact ⟨entry, ⟨member, starts⟩, rfl⟩

/-- The keys of a map decide which keys a scan of it finds, whatever their values are. -/
theorem keys_scan_congr {left right : Records}
    (same : ∀ key, key ∈ left.entries.map (·.1) ↔ key ∈ right.entries.map (·.1))
    (stem : Bytes) : (left.scan stem).map (·.1) = (right.scan stem).map (·.1) := by
  apply (left.pairwise_keys_scan stem).eq_of_mem_iff (right.pairwise_keys_scan stem)
  intro key
  rw [mem_keys_scan, mem_keys_scan, same key]

end Records

theorem Memory.mem_keys_content (memory : Memory) (key : Bytes) :
    key ∈ memory.content.entries.map (·.1) ↔ key ∈ memory.entries.map (·.1) := by
  have sameEntry : ∀ value,
      (key, value) ∈ memory.content.entries ↔ (key, value) ∈ memory.entries := by
    intro value
    rw [← Records.get?_eq_some_iff, content, Records.get?_ofEntries_eq_some_iff memory.distinct]
  simp [sameEntry]

/-- The keys that start with a stem are those of a range: they are not below the stem, and where
the range has an end they are below it. So a memory and a table with the same keys find the same
keys in a scan, in the same order: those with the stem. -/
theorem scans_select_stem (stem : Bytes) :
    (∀ high, rangeEnd? stem = some high → ∀ key, stem <+: key ↔ stem ≤ key ∧ key < high) ∧
      (rangeEnd? stem = none → ∀ key, stem <+: key ↔ stem ≤ key) ∧
      ∀ (memory : Memory) (table : Table),
        (∀ key, key ∈ memory.entries.map (·.1) ↔ key ∈ table.rows.entries.map (·.1)) →
          (memory.scan stem).map (·.1) = (table.scan stem).map (·.1) ∧
            ∀ key, key ∈ (table.scan stem).map (·.1) ↔
              key ∈ table.rows.entries.map (·.1) ∧ stem <+: key := by
  refine ⟨?_, ?_, ?_⟩
  · intro high ends key
    rw [Table.isPrefix_iff, ends]
    simp
  · intro endless key
    rw [Table.isPrefix_iff, endless]
    simp
  · intro memory table sameKeys
    rw [Memory.scan_eq, Table.scan_eq]
    constructor
    · apply Records.keys_scan_congr
      intro key
      rw [Memory.mem_keys_content, sameKeys]
      rfl
    · intro key
      exact Records.mem_keys_scan

/-- The stem ends in the byte 255, and of three keys one is the stem, one extends it and one is the
end of its range. The memory has them in another order than the table. -/
theorem scans_select_stem_sample :
    rangeEnd? [97, 255] = some [98] ∧
      (([97, 255] : Bytes) <+: [97, 255, 0] ↔ ([97, 255] : Bytes) ≤ [97, 255, 0] ∧
        ([97, 255, 0] : Bytes) < [98]) ∧
      let memory : Memory := ⟨[([98], []), ([97, 255, 0], []), ([97, 255], [])], by decide⟩
      let table : Table := ⟨⟨[([97, 255], [1]), ([97, 255, 0], [2]), ([98], [3])], by
        unfold Ascending
        decide⟩⟩
      (memory.scan [97, 255]).map (·.1) = (table.scan [97, 255]).map (·.1) ∧
        (table.scan [97, 255]).map (·.1) = [[97, 255], [97, 255, 0]] := by
  rcases scans_select_stem [97, 255] with ⟨ranged, -, selects⟩
  refine ⟨rfl, ranged [98] rfl [97, 255, 0], ?_⟩
  intro memory table
  have sameKeys : ∀ key, key ∈ memory.entries.map (·.1) ↔ key ∈ table.rows.entries.map (·.1) := by
    intro key
    simp only [memory, table, List.map_cons, List.map_nil, List.mem_cons]
    tauto
  exact ⟨(selects memory table sameKeys).1, rfl⟩

end Finality
