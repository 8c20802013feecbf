import Finality.Host.Standard
import Finality.Proofs.Bytes.Hex
import Finality.Proofs.Number.Integer
import Finality.Proofs.Wire.Fields
import Finality.Wire.Form

/-!
# Views lose nothing

A view shows byte strings and large integers as texts, so data of different types can look the
same. Among the values of a kind they cannot: each place of a field map holds data of one type,
if any (`Datum.Alike`). So a value can be told from its view, which is made of what every reader
of JSON takes as it is (`views_safe_and_lossless`).
-/

namespace Finality

namespace Datum

/-- Data that every reader of JSON takes as they are: no value, texts, integers from zero to
`2 ^ 53`, lists of such data, and maps from distinct texts to such data. -/
inductive JsonSafe : Datum → Prop where
  | null : JsonSafe .null
  | text (value : String) : JsonSafe (.text value)
  | int {value : Int} (least : 0 ≤ value) (most : value ≤ Nat.pow 2 53) : JsonSafe (.int value)
  | list {items : List Datum} (each : ∀ item ∈ items, JsonSafe item) : JsonSafe (.list items)
  | map {entries : List (Datum × Datum)} (keys : TextKeys entries)
      (each : ∀ entry ∈ entries, JsonSafe entry.2) : JsonSafe (.map entries)

/-- Two data that have data of the same types in the same places, where either may also hold
nothing. The items of a list all stand in the same place. -/
inductive Alike : Datum → Datum → Prop where
  | absent (datum : Datum) : Alike .null datum
  | present (datum : Datum) : Alike datum .null
  | nat (left right : Nat) : Alike (.nat left) (.nat right)
  | text (left right : String) : Alike (.text left) (.text right)
  | bytes (left right : Bytes) : Alike (.bytes left) (.bytes right)
  | list {lefts rights : List Datum}
      (each : ∀ left ∈ lefts, ∀ right ∈ rights, Alike left right) :
      Alike (.list lefts) (.list rights)
  | map {lefts rights : List (Datum × Datum)} (keys : TextKeys lefts)
      (each : ∀ pair ∈ lefts.zip rights, Alike pair.1.2 pair.2.2) :
      Alike (.map lefts) (.map rights)

/-! ## Views of single data -/

section

variable {ofValue : Value → Datum}

theorem viewItems_eq_map (items : List Datum) :
    viewItems ofValue items = items.map (viewWith ofValue) := by
  induction items with
  | nil => rfl
  | cons item items ih => rw [viewItems, ih, List.map_cons]

theorem viewEntries_eq_map (entries : List (Datum × Datum)) :
    viewEntries ofValue entries =
      entries.map fun entry => (entry.1, viewWith ofValue entry.2) := by
  induction entries with
  | nil => rfl
  | cons entry entries ih => rw [viewEntries, ih, List.map_cons]

theorem viewWith_nat (number : Nat) :
    viewWith ofValue (.nat number) =
      if 2 ^ 53 < number then .text (toString number) else .nat number := by
  have limit : viewLimit < (number : Int) ↔ 2 ^ 53 < number := by
    rw [viewLimit]
    norm_cast
  rw [nat, viewWith]
  simp only [limit]
  rfl

theorem jsonSafe_view_nat (number : Nat) : JsonSafe (viewWith ofValue (.nat number)) := by
  rw [viewWith_nat]
  split
  · exact .text _
  · next small =>
    have most : number ≤ 2 ^ 53 := Nat.not_lt.1 small
    exact .int (Int.natCast_nonneg number) (by exact_mod_cast most)

/-- Numbers with one view are the same: none is shown both as a text and as a number. -/
theorem nat_of_view {left right : Nat}
    (same : viewWith ofValue (.nat left) = viewWith ofValue (.nat right)) : left = right := by
  rw [viewWith_nat, viewWith_nat] at same
  split at same
  · split at same
    · exact Integer.toString_injective (Datum.text.inj same)
    · cases same
  · split at same
    · cases same
    · exact Int.ofNat.inj (Datum.int.inj same)

theorem null_of_view {datum : Datum} (same : datum.viewWith .object = .null) : datum = .null := by
  cases datum with
  | null => rfl
  | int value =>
      rw [viewWith] at same
      split at same <;> cases same
  | _ => cases same

end

/-! ## Views of alike data -/

/-- Lists with the same images are the same, if items in one position differ in their images. -/
theorem eq_of_map_eq {α β : Type} {image : α → β} {lefts rights : List α}
    (same : lefts.map image = rights.map image)
    (each : ∀ pair ∈ lefts.zip rights, image pair.1 = image pair.2 → pair.1 = pair.2) :
    lefts = rights := by
  induction lefts generalizing rights with
  | nil => exact (List.map_eq_nil_iff.1 same.symm).symm
  | cons left lefts ih =>
      cases rights with
      | nil => cases same
      | cons right rights =>
          rcases List.cons.inj same with ⟨head, tail⟩
          rw [List.zip_cons_cons, List.forall_mem_cons] at each
          have same : left = right := each.1 head
          rw [same, ih tail each.2]

/-- Every item of a list stands beside itself. -/
theorem mem_zip_self {α : Type} {items : List α} {item : α} (member : item ∈ items) :
    (item, item) ∈ items.zip items := by
  rcases List.mem_iff_getElem.1 member with ⟨index, bound, rfl⟩
  exact List.mem_iff_getElem.2 ⟨index, by simpa using bound, List.getElem_zip⟩

namespace Alike

variable {left right : Datum}

/-- Records with alike parts are alike. -/
theorem record {lefts rights : List (String × Datum)} (distinct : (lefts.map (·.1)).Nodup)
    (each : ∀ pair ∈ lefts.zip rights, Alike pair.1.2 pair.2.2) :
    Alike (.record lefts) (.record rights) := by
  refine .map (TextKeys.ofFields distinct) ?_
  rw [List.zip_map, List.forall_mem_map]
  exact each

/-- Data that have a type in every place have a safe view. -/
theorem jsonSafe_view (alike : Alike left right) (same : left = right) :
    JsonSafe (left.viewWith .object) := by
  induction alike with
  | absent datum => exact .null
  | present datum =>
      subst same
      exact .null
  | nat left right => exact jsonSafe_view_nat left
  | text left right => exact .text left
  | bytes left right => exact .text (toHex0x left)
  | list each ih =>
      cases same
      rw [viewWith, viewItems_eq_map]
      refine .list ?_
      rw [List.forall_mem_map]
      intro item member
      exact ih item member item member rfl
  | map keys each ih =>
      cases same
      rw [viewWith, viewEntries_eq_map]
      refine .map (keys.perm ?_) ?_
      · rw [List.map_map]
        exact .refl _
      · rw [List.forall_mem_map]
        intro entry member
        exact ih (entry, entry) (mem_zip_self member) rfl

/-- Alike data with the same view are the same. -/
theorem eq_of_view (alike : Alike left right)
    (same : left.viewWith .object = right.viewWith .object) : left = right := by
  induction alike with
  | absent datum => exact (null_of_view same.symm).symm
  | present datum => exact null_of_view same
  | nat left right => exact congrArg Datum.nat (nat_of_view same)
  | text left right => exact same
  | bytes left right => exact congrArg Datum.bytes (toHex0x_injective (Datum.text.inj same))
  | list each ih =>
      rw [viewWith, viewWith, viewItems_eq_map, viewItems_eq_map] at same
      refine congrArg Datum.list (eq_of_map_eq (Datum.list.inj same) ?_)
      rintro ⟨left, right⟩ member shown
      rcases List.of_mem_zip member with ⟨inLeft, inRight⟩
      exact ih left inLeft right inRight shown
  | map keys each ih =>
      rw [viewWith, viewWith, viewEntries_eq_map, viewEntries_eq_map] at same
      refine congrArg Datum.map (eq_of_map_eq (Datum.map.inj same) ?_)
      intro pair member shown
      rcases Prod.mk.inj shown with ⟨sameKey, sameView⟩
      exact Prod.ext sameKey (ih pair member sameView)

-- Data that are not alike can have one view.
example : (Datum.bytes []).viewWith .object = (Datum.text "0x").viewWith .object := rfl

end Alike

end Datum

namespace Fielded

open Datum (Alike)

variable {α : Type} {write : α → Datum}

/-- The field maps of all values of a type are alike. -/
def Uniform (write : α → Datum) : Prop := ∀ left right, Alike (write left) (write right)

namespace Uniform

theorem option (uniform : Uniform write) : Uniform (ofOption write) := by
  intro left right
  cases left with
  | none => exact .absent _
  | some left =>
      cases right with
      | none => exact .present _
      | some right => exact uniform left right

theorem list (uniform : Uniform write) :
    Uniform fun values : List α => .list (values.map write) := by
  intro lefts rights
  refine .list ?_
  simp only [List.forall_mem_map]
  intro left _ right _
  exact uniform left right

end Uniform

/-! ## Kinds of values -/

theorem height_uniform : Uniform ofHeight := by
  intro left right
  refine .record (by simp) ?_
  simp only [List.zip_cons_cons, List.forall_mem_cons]
  exact ⟨.nat _ _, .nat _ _, nofun⟩

theorem publicKey_uniform : Uniform ofPublicKey := by
  intro left right
  refine .record (by simp) ?_
  simp only [List.zip_cons_cons, List.forall_mem_cons]
  exact ⟨.nat _ _, .bytes _ _, nofun⟩

theorem signature_uniform : Uniform ofSignature := by
  intro left right
  refine .record (by simp) ?_
  simp only [List.zip_cons_cons, List.forall_mem_cons]
  exact ⟨.nat _ _, .bytes _ _, nofun⟩

theorem validator_uniform : Uniform ofValidator := by
  intro left right
  refine .record (by simp) ?_
  simp only [List.zip_cons_cons, List.forall_mem_cons]
  exact ⟨.text _ _, publicKey_uniform _ _, .nat _ _, nofun⟩

theorem roster_uniform : Uniform ofRoster := by
  intro left right
  refine .record (by simp) ?_
  simp only [List.zip_cons_cons, List.forall_mem_cons]
  exact ⟨validator_uniform.list _ _, nofun⟩

theorem clientState_uniform : Uniform ofClientState := by
  intro left right
  refine .record (by simp) ?_
  simp only [List.zip_cons_cons, List.forall_mem_cons]
  exact ⟨height_uniform _ _, .nat _ _, .nat _ _, .nat _ _, height_uniform.option _ _, nofun⟩

theorem consensusState_uniform : Uniform ofConsensusState := by
  intro left right
  refine .record (by simp) ?_
  simp only [List.zip_cons_cons, List.forall_mem_cons]
  exact ⟨.nat _ _, .bytes _ _, .bytes _ _, .bytes _ _, .bytes _ _, .bytes _ _, nofun⟩

theorem innerHeader_uniform : Uniform ofInnerHeader := by
  intro left right
  refine .record (by simp) ?_
  simp only [List.zip_cons_cons, List.forall_mem_cons]
  exact ⟨.nat _ _, .bytes _ _, .bytes _ _, .bytes _ _, .bytes _ _, .nat _ _, .bytes _ _,
    .bytes _ _, nofun⟩

theorem header_uniform : Uniform ofHeader := by
  intro left right
  refine .record (by simp) ?_
  simp only [List.zip_cons_cons, List.forall_mem_cons]
  exact ⟨.bytes _ _, .bytes _ _, innerHeader_uniform _ _, .bytes _ _,
    validator_uniform.list.option _ _, signature_uniform.option.list _ _, nofun⟩

theorem misbehaviour_uniform : Uniform ofMisbehaviour := by
  intro left right
  refine .record (by simp) ?_
  simp only [List.zip_cons_cons, List.forall_mem_cons]
  exact ⟨.text _ _, height_uniform _ _, header_uniform _ _, header_uniform _ _, nofun⟩

theorem proofStep_uniform : Uniform ofProofStep := by
  intro left right
  refine .record (by simp) ?_
  simp only [List.zip_cons_cons, List.forall_mem_cons]
  exact ⟨.bytes _ _, .nat _ _, nofun⟩

theorem proof_uniform : Uniform ofProof := by
  intro left right
  refine .record (by simp) ?_
  simp only [List.zip_cons_cons, List.forall_mem_cons]
  exact ⟨.bytes _ _, proofStep_uniform.list _ _, nofun⟩

/-- What stands in a place of a field map depends on the kind of the value only. -/
theorem uniform_fields (kind : Kind) :
    Uniform fun content : kind.Carrier => Value.fields ⟨kind, content⟩ := by
  cases kind with
  | height => exact height_uniform
  | clientState => exact clientState_uniform
  | consensusState => exact consensusState_uniform
  | header => exact header_uniform
  | misbehaviour => exact misbehaviour_uniform
  | proof => exact proof_uniform
  | innerHeader => exact innerHeader_uniform
  | proofStep => exact proofStep_uniform
  | publicKey => exact publicKey_uniform
  | signature => exact signature_uniform
  | validator => exact validator_uniform
  | roster => exact roster_uniform

end Fielded

/-- The view of a value of any kind is safe: at every depth it has only no value, texts, integers
from zero to `2 ^ 53`, lists, and maps with texts as keys. And it loses nothing: different values
of one kind have different views. -/
theorem views_safe_and_lossless :
    (∀ value : Value, (Datum.object value).view.JsonSafe) ∧
      ∀ kind : Kind,
        Function.Injective fun content : kind.Carrier => (Datum.object ⟨kind, content⟩).view := by
  constructor
  · rintro ⟨kind, content⟩
    exact (Fielded.uniform_fields kind content content).jsonSafe_view rfl
  · intro kind left right same
    have sameFields := (Fielded.uniform_fields kind left right).eq_of_view same
    -- One host that reads the fields back is enough.
    exact (@Fielded.faithful_fields Host.standard kind).injective sameFields

end Finality
