import Mathlib.Data.List.Sort
import Finality.Wire.Cbor.Writer
import Finality.Wire.Fields

/-!
# Data with sorted keys

A map is written with its keys in a fixed order, so reading gives back a datum whose maps
have this order (`Datum.settled`). Sorting only moves the entries of a map
(`sortKeys_perm`). Whoever looks up fields by name in a map with distinct names does not
notice it (`Fielded.Reading.of_settled`).
-/

namespace Finality

namespace Cbor

/-- A written entry may stand before another one. -/
def EntryLe (left right : Bytes × Bytes) : Prop := keyBefore right.1 left.1 = false

instance : DecidableRel EntryLe := fun left right =>
  inferInstanceAs (Decidable (keyBefore right.1 left.1 = false))

theorem placeEntry_eq_orderedInsert (entry : Bytes × Bytes) (entries : List (Bytes × Bytes)) :
    placeEntry entry entries = entries.orderedInsert EntryLe entry := by
  induction entries with
  | nil => rfl
  | cons other entries ih =>
      rw [placeEntry, ih]
      cases before : keyBefore other.1 entry.1 with
      | true => exact (List.orderedInsert_of_not_le EntryLe _ (ne_false_of_eq_true before)).symm
      | false => exact (List.orderedInsert_cons_of_le EntryLe _ before).symm

theorem sortEntries_eq_insertionSort (entries : List (Bytes × Bytes)) :
    sortEntries entries = entries.insertionSort EntryLe := by
  induction entries with
  | nil => rfl
  | cons entry entries ih =>
      rw [sortEntries, ih, placeEntry_eq_orderedInsert, List.insertionSort_cons]

/-- The written form of an entry. -/
def writeEntry (entry : Datum × Datum) : Bytes × Bytes := (write entry.1, write entry.2)

theorem writeEntries_eq_map (entries : List (Datum × Datum)) :
    writeEntries entries = entries.map writeEntry := by
  induction entries with
  | nil => rfl
  | cons entry entries ih =>
      rw [writeEntries, ih]
      rfl

theorem writeItems_eq_map (items : List Datum) : writeItems items = items.map write := by
  induction items with
  | nil => rfl
  | cons item items ih => rw [writeItems, ih, List.map_cons]

/-- An entry may stand before another one when both are written. -/
def KeyLe (left right : Datum × Datum) : Prop := EntryLe (writeEntry left) (writeEntry right)

instance : DecidableRel KeyLe := fun left right =>
  inferInstanceAs (Decidable (EntryLe (writeEntry left) (writeEntry right)))

/-- The entries of a map in the order of their written keys. -/
def sortKeys (entries : List (Datum × Datum)) : List (Datum × Datum) :=
  entries.insertionSort KeyLe

/-- Sorting moves entries and changes none. -/
theorem sortKeys_perm (entries : List (Datum × Datum)) : (sortKeys entries).Perm entries :=
  List.perm_insertionSort KeyLe entries

/-- The written entries of a map are those of the sorted entries. -/
theorem sortEntries_writeEntries (entries : List (Datum × Datum)) :
    sortEntries (writeEntries entries) = (sortKeys entries).map writeEntry := by
  rw [writeEntries_eq_map, sortEntries_eq_insertionSort, sortKeys]
  exact (List.map_insertionSort KeyLe EntryLe writeEntry entries fun _ _ _ _ => Iff.rfl).symm

end Cbor

namespace Datum

mutual

/-- A datum with the entries of its maps in the order of their written keys. -/
def settled : Datum → Datum
  | .list items => .list (settledItems items)
  | .map entries => .map (Cbor.sortKeys (settledEntries entries))
  | datum => datum

/-- Data with sorted maps. -/
def settledItems : List Datum → List Datum
  | [] => []
  | item :: items => settled item :: settledItems items

/-- The entries of a map with sorted maps in their values. -/
def settledEntries : List (Datum × Datum) → List (Datum × Datum)
  | [] => []
  | (key, value) :: entries => (key, settled value) :: settledEntries entries

end

/-- An entry with its value settled. -/
def settledEntry (entry : Datum × Datum) : Datum × Datum := (entry.1, settled entry.2)

theorem settledItems_eq_map (items : List Datum) : settledItems items = items.map settled := by
  induction items with
  | nil => rfl
  | cons item items ih => rw [settledItems, ih, List.map_cons]

theorem settledEntries_eq_map (entries : List (Datum × Datum)) :
    settledEntries entries = entries.map settledEntry := by
  induction entries with
  | nil => rfl
  | cons entry entries ih =>
      rw [settledEntries, ih]
      rfl

@[simp] theorem settled_null : settled .null = .null := rfl

@[simp] theorem settled_bool (value : Bool) : settled (.bool value) = .bool value := rfl

@[simp] theorem settled_int (value : Int) : settled (.int value) = .int value := rfl

@[simp] theorem settled_text (value : String) : settled (.text value) = .text value := rfl

@[simp] theorem settled_bytes (value : Bytes) : settled (.bytes value) = .bytes value := rfl

@[simp] theorem settled_list (items : List Datum) :
    settled (.list items) = .list (items.map settled) := by
  rw [settled, settledItems_eq_map]

theorem settled_map (entries : List (Datum × Datum)) :
    settled (.map entries) = .map (Cbor.sortKeys (entries.map settledEntry)) := by
  rw [settled, settledEntries_eq_map]

/-- It makes no difference whether values are settled before sorting or after. -/
theorem sortKeys_settledEntry (entries : List (Datum × Datum)) :
    Cbor.sortKeys (entries.map settledEntry) = (Cbor.sortKeys entries).map settledEntry :=
  (List.map_insertionSort Cbor.KeyLe Cbor.KeyLe settledEntry entries fun _ _ _ _ => Iff.rfl).symm

/-! ## Distinct texts as keys -/

/-- The keys of a map are texts, each of them once. -/
structure TextKeys (entries : List (Datum × Datum)) : Prop where
  texts : ∀ key ∈ entries.map (·.1), ∃ name, key = .text name
  distinct : (entries.map (·.1)).Nodup

namespace TextKeys

variable {entries others : List (Datum × Datum)}

/-- Only the keys matter, in any order. -/
theorem perm (keys : TextKeys entries)
    (permuted : (others.map (·.1)).Perm (entries.map (·.1))) : TextKeys others where
  texts := by
    intro key member
    exact keys.texts key (permuted.mem_iff.1 member)
  distinct := permuted.nodup_iff.2 keys.distinct

theorem settled (keys : TextKeys entries) :
    TextKeys (Cbor.sortKeys (entries.map settledEntry)) := by
  have sameKeys : (entries.map settledEntry).map (·.1) = entries.map (·.1) := by
    rw [List.map_map]
    rfl
  apply keys.perm
  rw [← sameKeys]
  exact (Cbor.sortKeys_perm _).map _

/-- Fields with distinct names make a map whose keys are distinct texts. -/
theorem ofFields {fields : List (String × Datum)} (distinct : (fields.map (·.1)).Nodup) :
    TextKeys (fields.map fun field => (.text field.1, field.2)) := by
  have asTexts : (fields.map fun field => (Datum.text field.1, field.2)).map (·.1) =
      (fields.map (·.1)).map Datum.text := by
    rw [List.map_map, List.map_map]
    rfl
  constructor
  · rw [asTexts]
    intro key member
    rcases List.mem_map.1 member with ⟨name, -, rfl⟩
    exact ⟨name, rfl⟩
  · rw [asTexts]
    apply distinct.map
    intro left right equal
    exact Datum.text.inj equal

theorem tail {entry : Datum × Datum} (keys : TextKeys (entry :: entries)) : TextKeys entries where
  texts := by
    intro key member
    exact keys.texts key (List.mem_cons_of_mem _ member)
  distinct := (List.nodup_cons.1 keys.distinct).2

theorem left (keys : TextKeys (entries ++ others)) : TextKeys entries where
  texts := by
    intro key member
    apply keys.texts key
    rw [List.map_append]
    exact List.mem_append_left _ member
  distinct := by
    have distinct := keys.distinct
    rw [List.map_append] at distinct
    exact (List.nodup_append.1 distinct).1

/-- A name is looked up as what its only entry holds. -/
theorem lookup?_eq_some_iff (keys : TextKeys entries) {name : String} {value : Datum} :
    lookup? name entries = some value ↔ (.text name, value) ∈ entries := by
  induction entries with
  | nil => simp [lookup?]
  | cons entry entries ih =>
      rcases entry with ⟨key, held⟩
      rcases keys.texts key List.mem_cons_self with ⟨known, rfl⟩
      rw [lookup?]
      by_cases same : known = name
      · subst same
        have noOther : (Datum.text known, value) ∉ entries := by
          intro member
          exact (List.nodup_cons.1 keys.distinct).1 (List.mem_map.2 ⟨_, member, rfl⟩)
        simp [noOther, eq_comm]
      · rw [if_neg same, ih keys.tail]
        simp [Ne.symm same]

/-- Looking up a name does not depend on the order of entries, and finds the settled value. -/
theorem lookup?_settled (keys : TextKeys entries) (name : String) :
    lookup? name (Cbor.sortKeys (entries.map settledEntry)) =
      (lookup? name entries).map Datum.settled := by
  apply Option.ext
  intro value
  rw [keys.settled.lookup?_eq_some_iff, (Cbor.sortKeys_perm _).mem_iff, List.mem_map,
    Option.map_eq_some_iff]
  constructor
  · rintro ⟨⟨key, held⟩, member, equal⟩
    cases equal
    exact ⟨held, keys.lookup?_eq_some_iff.2 member, rfl⟩
  · rintro ⟨held, found, rfl⟩
    exact ⟨(.text name, held), keys.lookup?_eq_some_iff.1 found, rfl⟩

/-- A key that is not there yet is added at the end. -/
theorem insertEntry_eq_append {key old value : Datum} (keys : TextKeys (entries ++ [(key, old)])) :
    insertEntry key value entries = entries ++ [(key, value)] := by
  induction entries with
  | nil => rfl
  | cons entry entries ih =>
      rcases entry with ⟨known, held⟩
      rcases keys.texts known List.mem_cons_self with ⟨name, rfl⟩
      rcases keys.texts key (by simp) with ⟨other, rfl⟩
      have differs : name ≠ other := by
        rintro rfl
        exact (List.nodup_cons.1 keys.distinct).1 (by simp)
      have apart : sameKey (.text name) (.text other) = false := by
        rw [sameKey]
        exact beq_eq_false_iff_ne.2 differs
      rw [insertEntry, apart, ih keys.tail]
      rfl

end TextKeys

end Datum

/-! ## Fields of a settled record -/

namespace Fielded

theorem mem_unexpected_iff {names : List String} {entries : List (Datum × Datum)} {key : Datum} :
    key ∈ unexpected names entries ↔
      key ∈ entries.map (·.1) ∧ ∀ name ∈ names, key ≠ .text name := by
  rw [unexpected, List.mem_filter]
  refine and_congr_right fun _ => ?_
  cases key with
  | text name =>
      constructor
      · rintro unknown _ member ⟨⟩
        simp [member] at unknown
      · intro other
        simpa using fun member => other name member rfl
  | _ => exact iff_of_true rfl fun _ _ => nofun

variable [Host]

/-- A map is read as the named fields, if each of them is found and there are no other keys. -/
theorem fields_eq_ok {place : String} {names : List String} {entries : List (Datum × Datum)}
    (found : ∀ name ∈ names, ∃ value, Datum.lookup? name entries = some value)
    (named : ∀ entry ∈ entries, ∃ name ∈ names, entry.1 = .text name) :
    fields place names (.map entries) =
      .ok (names.map fun name => (Datum.lookup? name entries).getD .null) := by
  rw [fields, if_pos]
  rw [Bool.and_eq_true, List.isEmpty_iff, List.isEmpty_iff, List.filter_eq_nil_iff,
    List.eq_nil_iff_forall_not_mem]
  constructor
  · intro name member
    rcases found name member with ⟨value, present⟩
    simp [present]
  · intro key extra
    rcases mem_unexpected_iff.1 extra with ⟨member, unknown⟩
    rcases List.mem_map.1 member with ⟨entry, present, rfl⟩
    rcases named entry present with ⟨name, known, isText⟩
    exact unknown name known isText

/-- The fields of a record are read from its settled form, whatever order they have there. -/
theorem Reading.of_settled (place : String) {names : List String} {parts : List (String × Datum)}
    (named : parts.map (·.1) = names) (distinct : names.Nodup) :
    Reading.of place names (Datum.settled (.record parts)) =
      .ok ⟨parts.map fun part => (part.1, part.2.settled)⟩ := by
  subst named
  have keys := Datum.TextKeys.ofFields distinct
  have found : ∀ part ∈ parts, Datum.lookup? part.1
      (Cbor.sortKeys ((parts.map fun part => (Datum.text part.1, part.2)).map
        Datum.settledEntry)) = some part.2.settled := by
    intro part member
    rw [keys.lookup?_settled, Option.map_eq_some_iff]
    exact ⟨part.2, keys.lookup?_eq_some_iff.2 (List.mem_map.2 ⟨part, member, rfl⟩), rfl⟩
  have read := @fields_eq_ok _ place (parts.map (·.1)) (Cbor.sortKeys
    ((parts.map fun part => (Datum.text part.1, part.2)).map Datum.settledEntry)) ?_ ?_
  · rw [Reading.of, Datum.record, Datum.settled_map, read, List.map_map]
    have values : (parts.map ((fun name => (Datum.lookup? name (Cbor.sortKeys
        ((parts.map fun part => (Datum.text part.1, part.2)).map
          Datum.settledEntry))).getD .null) ∘ (·.1))) = parts.map fun part => part.2.settled := by
      apply List.map_congr_left
      intro part member
      rw [Function.comp_apply, found part member, Option.getD_some]
    rw [values, Except.map, List.zip_map']
  · intro name member
    rcases List.mem_map.1 member with ⟨part, present, rfl⟩
    exact ⟨_, found part present⟩
  · intro entry member
    rw [(Cbor.sortKeys_perm _).mem_iff, List.map_map] at member
    rcases List.mem_map.1 member with ⟨part, present, rfl⟩
    exact ⟨part.1, List.mem_map.2 ⟨part, present, rfl⟩, rfl⟩

end Fielded

end Finality
