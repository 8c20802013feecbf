import Finality.Bytes

/-!
# Entries

A finite map from byte strings is kept as a list of entries whose keys ascend, so there is
one list for every map and a walk through it meets the keys in order.
-/

namespace Finality

/-- Byte strings, each with something that belongs to it. -/
abbrev Entries (α : Type) : Type := List (Bytes × α)

variable {α : Type}

/-- Whether entries have ascending keys. -/
def Ascending (entries : Entries α) : Prop :=
  entries.Pairwise fun left right => left.1 < right.1

namespace Entries

/-- The value of a key: that of its first entry. -/
def value? (entries : Entries α) (key : Bytes) : Option α :=
  (entries.find? fun entry => entry.1 = key).map (·.2)

/-- Set the value of a key, in its place. -/
def insert (key : Bytes) (value : α) : Entries α → Entries α
  | [] => [(key, value)]
  | (other, known) :: entries =>
    if key = other then (key, value) :: entries
    else if key < other then (key, value) :: (other, known) :: entries
    else (other, known) :: insert key value entries

theorem mem_insert {key : Bytes} {value : α} {entries : Entries α} {entry : Bytes × α}
    (h : entry ∈ insert key value entries) : entry = (key, value) ∨ entry ∈ entries := by
  induction entries with
  | nil => exact Or.inl (by simpa [insert] using h)
  | cons head entries ih =>
    obtain ⟨other, known⟩ := head
    simp only [insert] at h
    split at h
    · rcases List.mem_cons.1 h with h | h
      · exact Or.inl h
      · exact Or.inr (List.mem_cons_of_mem _ h)
    · split at h
      · exact List.mem_cons.1 h
      · rcases List.mem_cons.1 h with h | h
        · exact Or.inr (h ▸ List.mem_cons_self)
        · exact (ih h).imp id (List.mem_cons_of_mem _)

theorem ascending_insert {key : Bytes} {value : α} {entries : Entries α}
    (h : Ascending entries) : Ascending (insert key value entries) := by
  induction entries with
  | nil => simp [insert, Ascending]
  | cons head entries ih =>
    obtain ⟨other, known⟩ := head
    obtain ⟨hhead, htail⟩ := List.pairwise_cons.1 h
    simp only [insert]
    split
    · next heq => subst heq; exact List.pairwise_cons.2 ⟨hhead, htail⟩
    · next hne =>
      split
      · next hlt =>
        refine List.pairwise_cons.2 ⟨fun entry hentry => ?_, h⟩
        rcases List.mem_cons.1 hentry with hentry | hentry
        · subst hentry; exact hlt
        · exact List.lt_trans hlt (hhead entry hentry)
      · next hnlt =>
        refine List.pairwise_cons.2 ⟨fun entry hentry => ?_, ih htail⟩
        rcases mem_insert hentry with hentry | hentry
        · subst hentry
          have hle : other ≤ key := hnlt
          exact Std.lt_of_le_of_ne hle (Ne.symm hne)
        · exact hhead entry hentry

end Entries

end Finality
