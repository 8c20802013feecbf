import Mathlib.Data.List.Induction
import Finality.Proofs.Entries
import Finality.Store.Records

/-!
# Records are a finite map

`Records.get?` determines the entries and is determined by them, so two contents that
agree on every key are equal (`Records.ext_get?`). A change replaces the value of its
own key and leaves all others alone; after several changes, the last one of a key wins
(`Records.get?_applyAll`).
-/

namespace Finality

/-- The value that a change leaves under its key. -/
def Write.value? : Write → Option Bytes
  | put _ value => some value
  | delete _ => none

namespace Records

/-! ## Entries and values -/

theorem get?_eq_some_iff {records : Records} {key value : Bytes} :
    records.get? key = some value ↔ (key, value) ∈ records.entries :=
  Entries.value?_eq_some_iff (Entries.nodup_keys records.ascending)

/-- Contents that agree on every key are equal. -/
theorem ext_get? {left right : Records} (agree : ∀ key, left.get? key = right.get? key) :
    left = right := by
  have sameMembers : ∀ entry, entry ∈ left.entries ↔ entry ∈ right.entries := by
    intro entry
    rcases entry with ⟨key, value⟩
    rw [← get?_eq_some_iff, ← get?_eq_some_iff, agree key]
  have equal := Entries.ext_mem left.ascending right.ascending sameMembers
  cases left
  cases right
  cases equal
  rfl

/-! ## Changes -/

theorem get?_insert (records : Records) (key value other : Bytes) :
    (records.insert key value).get? other =
      if key = other then some value else records.get? other :=
  Entries.value?_insert key value records.entries other

theorem get?_erase (records : Records) (key other : Bytes) :
    (records.erase key).get? other = if key = other then none else records.get? other :=
  Entries.value?_filter_ne key records.entries other

/-- A change sets the value of its key and no other. -/
theorem get?_apply (records : Records) (write : Write) (key : Bytes) :
    (records.apply write).get? key =
      if write.key = key then write.value? else records.get? key := by
  cases write with
  | put other value => exact get?_insert records other value key
  | delete other => exact get?_erase records other key

/-- After several changes, a key has the value of its last change. -/
theorem get?_applyAll (records : Records) (writes : List Write) (key : Bytes) :
    (records.applyAll writes).get? key =
      match writes.reverse.find? fun write => write.key = key with
      | some write => write.value?
      | none => records.get? key := by
  induction writes using List.reverseRecOn with
  | nil => rfl
  | append_singleton writes write ih =>
      rw [applyAll, List.foldl_append, List.foldl_cons, List.foldl_nil, get?_apply,
        List.reverse_append, List.reverse_singleton, List.singleton_append, List.find?_cons]
      by_cases same : write.key = key
      · simp only [same, ↓reduceIte, decide_true]
      · simp only [same, ↓reduceIte, decide_false]
        exact ih

/-- Changes leave a key alone that none of them is about. -/
theorem get?_applyAll_of_untouched {records : Records} {writes : List Write} {key : Bytes}
    (untouched : ∀ write ∈ writes, write.key ≠ key) :
    (records.applyAll writes).get? key = records.get? key := by
  have missing : (writes.reverse.find? fun write => write.key = key) = none := by
    rw [List.find?_eq_none]
    intro write member
    simpa using untouched write (List.mem_reverse.1 member)
  rw [get?_applyAll, missing]

/-- What one of the changes about a key leaves under it, if all of them leave the same. -/
theorem get?_applyAll_of_touched {records : Records} {writes : List Write} {key : Bytes}
    {result : Option Bytes} (touched : ∃ write ∈ writes, write.key = key)
    (agree : ∀ write ∈ writes, write.key = key → write.value? = result) :
    (records.applyAll writes).get? key = result := by
  rw [get?_applyAll]
  cases found : writes.reverse.find? fun write => write.key = key with
  | none =>
      rcases touched with ⟨write, member, same⟩
      have apart := List.find?_eq_none.1 found write (List.mem_reverse.2 member)
      simp [same] at apart
  | some write =>
      have member := List.mem_reverse.1 (List.mem_of_find?_eq_some found)
      exact agree write member (by simpa using List.find?_some found)

/-! ## What has changed -/

/-- One content becomes another: the keys of the listed changes have the listed values, or none,
and every other key is as it was. -/
structure Becomes (before after : Records) (changes : List (Bytes × Option Bytes)) : Prop where
  changed : ∀ change ∈ changes, after.get? change.1 = change.2
  untouched : ∀ key, key ∉ changes.map (·.1) → after.get? key = before.get? key

/-- What changes do to a content, if no two of them leave different values under one key. -/
theorem becomes_applyAll {records : Records} {writes : List Write}
    (agree : ∀ write ∈ writes, ∀ other ∈ writes, other.key = write.key →
      other.value? = write.value?) :
    records.Becomes (records.applyAll writes)
      (writes.map fun write => (write.key, write.value?)) where
  changed := by
    intro change member
    rcases List.mem_map.1 member with ⟨write, written, rfl⟩
    exact get?_applyAll_of_touched ⟨write, written, rfl⟩ (agree write written)
  untouched := by
    intro key unlisted
    refine get?_applyAll_of_untouched ?_
    intro write written sameKey
    refine unlisted ?_
    rw [List.map_map]
    exact List.mem_map.2 ⟨write, written, sameKey⟩

/-! ## Scans -/

theorem ascending_scan (records : Records) (stem : Bytes) : Ascending (records.scan stem) :=
  List.Pairwise.filter _ records.ascending

theorem mem_scan {records : Records} {stem : Bytes} {entry : Bytes × Bytes} :
    entry ∈ records.scan stem ↔ records.get? entry.1 = some entry.2 ∧ stem <+: entry.1 := by
  rw [get?_eq_some_iff, scan, List.mem_filter, List.isPrefixOf_iff_prefix]

/-! ## Parts -/

theorem get?_filter {records : Records} {keep : Bytes → Bool} {key : Bytes} :
    (records.filter fun entry => keep entry.1).get? key =
      if keep key then records.get? key else none := by
  refine Option.ext fun value => ?_
  rw [get?_eq_some_iff, filter, List.mem_filter, ← get?_eq_some_iff]
  split
  · next kept => simp [kept]
  · next dropped => simp [dropped]

/-- A scan meets the same records in a part that has all those with its stem. -/
theorem scan_filter {records : Records} {keep : Bytes → Bool} {stem : Bytes}
    (kept : ∀ key, stem <+: key → keep key = true) :
    (records.filter fun entry => keep entry.1).scan stem = records.scan stem := by
  rw [scan, filter, List.filter_filter, scan]
  refine List.filter_congr fun entry _ => ?_
  cases starts : stem.isPrefixOf entry.1 with
  | false => rfl
  | true => simp [kept entry.1 (List.isPrefixOf_iff_prefix.1 starts)]

theorem get?_applyAll_deletes (records : Records) (keys : List Bytes) (key : Bytes) :
    (records.applyAll (keys.map .delete)).get? key =
      if key ∈ keys then none else records.get? key := by
  by_cases deleted : key ∈ keys
  · rw [if_pos deleted]
    apply get?_applyAll_of_touched ⟨_, List.mem_map.2 ⟨key, deleted, rfl⟩, rfl⟩
    intro write member sameKey
    rcases List.mem_map.1 member with ⟨other, -, rfl⟩
    rfl
  · rw [if_neg deleted]
    apply get?_applyAll_of_untouched
    intro write member sameKey
    rcases List.mem_map.1 member with ⟨other, listed, rfl⟩
    exact deleted (sameKey ▸ listed)

/-- Deleting keys leaves the part with all others. -/
theorem applyAll_deletes (records : Records) (keys : List Bytes) :
    records.applyAll (keys.map .delete) = records.filter fun entry => entry.1 ∉ keys := by
  apply ext_get?
  intro key
  rw [get?_applyAll_deletes, @get?_filter records (fun key => key ∉ keys) key]
  by_cases deleted : key ∈ keys
  · simp [deleted]
  · simp [deleted]

/-- Changes of kept keys commute with taking a part. -/
theorem filter_applyAll {records : Records} {keep : Bytes → Bool} {writes : List Write}
    (kept : ∀ write ∈ writes, keep write.key = true) :
    ((records.applyAll writes).filter fun entry => keep entry.1) =
      (records.filter fun entry => keep entry.1).applyAll writes := by
  refine ext_get? fun key => ?_
  rw [get?_filter, get?_applyAll, get?_applyAll, get?_filter]
  cases found : writes.reverse.find? fun write => write.key = key with
  | none => rfl
  | some write =>
      have sameKey : write.key = key := by simpa using List.find?_some found
      have member := List.mem_reverse.1 (List.mem_of_find?_eq_some found)
      rw [if_pos (sameKey ▸ kept write member)]

end Records

end Finality
