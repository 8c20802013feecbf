import Mathlib.Data.List.Nodup
import Finality.Entries

/-!
# Entries are a finite map

Ascending keys are distinct, so a key has one entry at most and `Entries.value?` finds it
(`Entries.value?_eq_some_iff`), and the members of entries determine their list
(`Entries.ext_mem`). Setting a value changes what is found under its own key only
(`Entries.value?_insert`).
-/

namespace Finality.Entries

variable {α : Type}

theorem nodup_keys {entries : Entries α} (ascending : Ascending entries) :
    (entries.map (·.1)).Nodup := by
  refine List.Pairwise.map (·.1) ?_ ascending
  intro left right ascends equal
  rw [equal] at ascends
  exact List.lt_irrefl _ ascends

/-- Entries with ascending keys are determined by their members. -/
theorem ext_mem {left right : Entries α} (leftAscends : Ascending left)
    (rightAscends : Ascending right) (same : ∀ entry, entry ∈ left ↔ entry ∈ right) :
    left = right := by
  have permuted : left.Perm right :=
    (List.perm_ext_iff_of_nodup (nodup_keys leftAscends).of_map
      (nodup_keys rightAscends).of_map).2 same
  apply permuted.eq_of_pairwise _ leftAscends rightAscends
  intro first second _ _ ascends descends
  exact absurd descends (List.lt_asymm ascends)

/-- Among entries with distinct keys, the first entry of a key is the only one. -/
theorem value?_eq_some_iff {entries : Entries α} (distinct : (entries.map (·.1)).Nodup)
    {key : Bytes} {value : α} : entries.value? key = some value ↔ (key, value) ∈ entries := by
  constructor
  · intro mapped
    rcases Option.map_eq_some_iff.1 mapped with ⟨entry, found, rfl⟩
    have sameKey : entry.1 = key := by simpa using List.find?_some found
    rw [← sameKey]
    exact List.mem_of_find?_eq_some found
  · intro member
    rw [value?]
    cases found : entries.find? fun entry => entry.1 = key with
    | none =>
        have absent := List.find?_eq_none.1 found (key, value) member
        simp at absent
    | some entry =>
        have sameKey : entry.1 = key := by simpa using List.find?_some found
        have entryMember := List.mem_of_find?_eq_some found
        have equal := List.inj_on_of_nodup_map distinct entryMember member sameKey
        rw [equal]
        rfl

theorem value?_cons (head : Bytes × α) (entries : Entries α) (key : Bytes) :
    value? (head :: entries) key =
      if head.1 = key then some head.2 else entries.value? key := by
  rw [value?, List.find?_cons]
  by_cases same : head.1 = key
  · simp [same]
  · simp [same, value?]

/-- Setting a value changes what is found under its key. -/
theorem value?_insert (key : Bytes) (value : α) (entries : Entries α) (other : Bytes) :
    (entries.insert key value).value? other =
      if key = other then some value else entries.value? other := by
  induction entries with
  | nil => exact value?_cons (key, value) [] other
  | cons head entries ih =>
      rcases head with ⟨known, old⟩
      rw [insert]
      split
      · next overwritten =>
        subst overwritten
        rw [value?_cons, value?_cons]
        by_cases same : key = other <;> simp [same]
      · next differs =>
        split
        · exact value?_cons (key, value) ((known, old) :: entries) other
        · rw [value?_cons, value?_cons, ih]
          by_cases same : known = other
          · have apart : key ≠ other := fun equal => differs (equal.trans same.symm)
            simp [same, apart]
          · simp [same]

/-- Removing the entries of a key leaves the values of all others. -/
theorem value?_filter_ne (key : Bytes) (entries : Entries α) (other : Bytes) :
    value? (entries.filter fun entry => entry.1 ≠ key) other =
      if key = other then none else entries.value? other := by
  induction entries with
  | nil => simp [value?]
  | cons head entries ih =>
      rw [List.filter_cons]
      split
      · next kept =>
        have apart : head.1 ≠ key := by simpa using kept
        rw [value?_cons, value?_cons, ih]
        by_cases same : head.1 = other
        · have differs : key ≠ other := fun equal => apart (same.trans equal.symm)
          simp [same, differs]
        · simp [same]
      · next removed =>
        have sameKey : head.1 = key := by simpa using removed
        rw [value?_cons, ih, sameKey]
        by_cases same : key = other <;> simp [same]

/-- Of entries that are set one after the other, the last one of a key is found. -/
theorem value?_foldl_insert (added : List (Bytes × α)) (entries : Entries α) (key : Bytes) :
    (added.foldl (fun known entry => known.insert entry.1 entry.2) entries).value? key =
      (added.reverse.lookup key).or (entries.value? key) := by
  induction added generalizing entries with
  | nil => rfl
  | cons head added ih =>
      rcases head with ⟨known, value⟩
      rw [List.foldl_cons, ih, value?_insert, List.reverse_cons, List.lookup_append,
        Option.or_assoc, List.lookup_cons, List.lookup_nil]
      by_cases same : known = key
      · simp [same]
      · have apart : (key == known) = false := by simpa using Ne.symm same
        rw [if_neg same, apart, Option.none_or]

end Finality.Entries
