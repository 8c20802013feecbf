import Mathlib.Data.List.Induction
import Finality.Report

/-!
# Data by name

Fields in which every name occurs once are a map from names to data. Setting and merging
fields keeps them so, and a name has the value that was given last
(`Fields.get?_mergeAll`).
-/

namespace Finality.Fields

/-- Every name occurs once. -/
def Distinct (fields : Fields) : Prop := (fields.map (·.1)).Nodup

/-- Fields extended by others one after another. -/
def mergeAll (fields : Fields) (others : List Fields) : Fields := others.foldl merge fields

/-- The value of a name in the last fields that have it. -/
def lastOf (given : List Fields) (name : String) : Option Datum :=
  given.reverse.findSome? fun fields => fields.get? name

/-! ## Values -/

theorem get?_cons (known : String) (value : Datum) (fields : Fields) (name : String) :
    get? ((known, value) :: fields) name =
      if known = name then some value else fields.get? name := by
  rw [get?, List.find?_cons]
  by_cases same : known = name
  · rw [if_pos same, decide_eq_true same]
    rfl
  · rw [if_neg same, decide_eq_false same]
    rfl

theorem get?_eq_none {fields : Fields} {name : String} (absent : name ∉ fields.map (·.1)) :
    fields.get? name = none := by
  induction fields with
  | nil => rfl
  | cons field fields ih =>
      rw [List.map_cons, List.mem_cons, not_or] at absent
      rw [get?_cons, if_neg (Ne.symm absent.1), ih absent.2]

theorem get?_eq_some_iff {fields : Fields} (distinct : fields.Distinct) {name : String}
    {value : Datum} : fields.get? name = some value ↔ (name, value) ∈ fields := by
  induction fields with
  | nil => exact ⟨nofun, nofun⟩
  | cons field fields ih =>
      rcases field with ⟨known, old⟩
      rcases List.nodup_cons.1 distinct with ⟨absent, distinct⟩
      rw [get?_cons, List.mem_cons]
      by_cases same : known = name
      · subst same
        have elsewhere : (known, value) ∉ fields :=
          fun member => absent (List.mem_map.2 ⟨_, member, rfl⟩)
        simp [elsewhere, eq_comm]
      · simp [same, Ne.symm same, ih distinct]

/-! ## Setting fields -/

theorem get?_insert (name : String) (value : Datum) (fields : Fields) (other : String) :
    (insert name value fields).get? other =
      if name = other then some value else fields.get? other := by
  induction fields with
  | nil => exact get?_cons name value [] other
  | cons field fields ih =>
      rcases field with ⟨known, old⟩
      rw [insert]
      by_cases same : known = name
      · subst same
        rw [if_pos rfl, get?_cons, get?_cons]
        split <;> rfl
      · rw [if_neg same, get?_cons, get?_cons, ih]
        by_cases other : known = other
        · subst other
          rw [if_pos rfl, if_neg (Ne.symm same), if_pos rfl]
        · rw [if_neg other, if_neg other]

theorem mem_names_insert {name known : String} {value : Datum} {fields : Fields} :
    known ∈ (insert name value fields).map (·.1) → known = name ∨ known ∈ fields.map (·.1) := by
  induction fields with
  | nil => exact fun member => Or.inl (List.mem_singleton.1 member)
  | cons field fields ih =>
      rcases field with ⟨first, old⟩
      rw [insert]
      split
      · exact Or.inr
      · rw [List.map_cons, List.map_cons, List.mem_cons, List.mem_cons]
        rintro (rfl | member)
        · exact Or.inr (Or.inl rfl)
        · exact (ih member).imp_right Or.inr

theorem Distinct.insert {fields : Fields} (distinct : fields.Distinct) (name : String)
    (value : Datum) : (insert name value fields).Distinct := by
  induction fields with
  | nil => exact List.pairwise_singleton _ _
  | cons field fields ih =>
      rcases field with ⟨known, old⟩
      rw [Fields.insert]
      by_cases same : known = name
      · rw [if_pos same]
        exact distinct
      · rw [if_neg same]
        rcases List.nodup_cons.1 distinct with ⟨absent, distinct⟩
        refine List.nodup_cons.2 ⟨fun member => ?_, ih distinct⟩
        rcases mem_names_insert member with equal | member
        · exact same equal
        · exact absent member

/-! ## Merging -/

theorem Distinct.merge {fields : Fields} (distinct : fields.Distinct) (others : Fields) :
    (fields.merge others).Distinct := by
  induction others generalizing fields with
  | nil => exact distinct
  | cons other others ih => exact ih (distinct.insert other.1 other.2)

theorem Distinct.mergeAll {fields : Fields} (distinct : fields.Distinct) (others : List Fields) :
    (fields.mergeAll others).Distinct := by
  induction others generalizing fields with
  | nil => exact distinct
  | cons other others ih => exact ih (distinct.merge other)

theorem Distinct.erase {fields : Fields} (distinct : fields.Distinct) (name : String) :
    (fields.erase name).Distinct :=
  List.Nodup.sublist (List.Sublist.map _ List.filter_sublist) distinct

theorem distinct_ofEntries (entries : List (Datum × Datum)) : (ofEntries entries).Distinct := by
  induction entries using List.reverseRecOn with
  | nil => exact List.nodup_nil
  | append_singleton entries entry ih =>
      rw [ofEntries] at ih
      rw [ofEntries, List.foldl_append]
      exact ih.insert entry.1.display entry.2

theorem insert_of_absent {fields : Fields} {name : String} (value : Datum)
    (absent : name ∉ fields.map (·.1)) : insert name value fields = fields ++ [(name, value)] := by
  induction fields with
  | nil => rfl
  | cons field fields ih =>
      rw [List.map_cons, List.mem_cons, not_or] at absent
      rw [insert, if_neg (Ne.symm absent.1), ih absent.2, List.cons_append]

/-- A map with distinct texts for keys is one of fields. -/
theorem ofEntries_named {fields : Fields} (distinct : fields.Distinct) :
    ofEntries (fields.map fun (name, value) => (.text name, value)) = fields := by
  induction fields using List.reverseRecOn with
  | nil => rfl
  | append_singleton fields field ih =>
      rcases field with ⟨name, value⟩
      rw [Distinct, List.map_append, List.nodup_append] at distinct
      rcases distinct with ⟨distinct, -, apart⟩
      have absent : name ∉ fields.map (·.1) :=
        fun member => apart name member name (List.mem_singleton_self name) rfl
      have before := ih distinct
      rw [ofEntries] at before
      rw [ofEntries, List.map_append, List.foldl_append, before]
      exact insert_of_absent value absent

/-- A name has the value of the other fields if they have it. -/
theorem get?_merge (fields : Fields) {others : Fields} (distinct : others.Distinct)
    (name : String) :
    (fields.merge others).get? name = (others.get? name).or (fields.get? name) := by
  induction others generalizing fields with
  | nil => rfl
  | cons other others ih =>
      rcases other with ⟨known, value⟩
      rcases List.nodup_cons.1 distinct with ⟨absent, distinct⟩
      have next := ih (insert known value fields) distinct
      rw [get?_insert] at next
      rw [get?_cons]
      refine next.trans ?_
      by_cases same : known = name
      · subst same
        rw [if_pos rfl, if_pos rfl, get?_eq_none absent]
        rfl
      · rw [if_neg same, if_neg same]

/-- The last fields that have a name decide its value. -/
theorem get?_mergeAll (fields : Fields) {others : List Fields}
    (distinct : ∀ other ∈ others, other.Distinct) (name : String) :
    (fields.mergeAll others).get? name = lastOf (fields :: others) name := by
  induction others using List.reverseRecOn with
  | nil =>
      rw [mergeAll, List.foldl_nil, lastOf]
      cases found : fields.get? name <;> simp [found]
  | append_singleton others last ih =>
      rcases List.forall_mem_append.1 distinct with ⟨distinct, lastDistinct⟩
      rw [List.forall_mem_singleton] at lastDistinct
      have before := ih distinct
      rw [mergeAll] at before
      rw [mergeAll, List.foldl_append, List.foldl_cons, List.foldl_nil,
        get?_merge _ lastDistinct, before, lastOf, lastOf, ← List.cons_append,
        List.reverse_append, List.reverse_singleton, List.singleton_append, List.findSome?_cons]
      cases last.get? name <;> rfl

end Finality.Fields
