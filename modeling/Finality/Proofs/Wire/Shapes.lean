import Finality.Proofs.Number.Exact
import Finality.Wire.Shape

/-!
# What is written in a shape

Writing a datum in a shape succeeds only on data that the shape is for, so the bytes can be told
from the shape and the datum: one lemma for each shape says so. Shapes that are solid write at
least one byte for every item (`Shape.length_write_pos`), which is what a reader of a sequence
relies on.
-/

namespace Finality

/-! ## Writing that succeeds -/

namespace Written

theorem fault_andThen {first next : Written} :
    (first.andThen next).fault = none ↔ first.fault = none ∧ next.fault = none := by
  rw [andThen]
  cases failed : first.fault with
  | none => simp
  | some fault => simp [failed]

theorem bytes_andThen {first next : Written} (succeeds : first.fault = none) :
    (first.andThen next).bytes = first.bytes ++ next.bytes := by
  rw [andThen, succeeds]

end Written

namespace Shape

/-- Shapes of which every item takes at least one byte, and whose sizes are natural numbers. -/
inductive IsSolid : Shape → Prop where
  | uint {width : Nat} (positive : 0 < width) : IsSolid (.uint width)
  | fixed {size : Nat} (positive : 0 < size) : IsSolid (.fixed (.nat size))
  | bytes : IsSolid .bytes
  | text : IsSolid .text
  | option {item : Shape} (solid : IsSolid item) : IsSolid (.option item)
  | list {item : Shape} (solid : IsSolid item) : IsSolid (.list item)

/-- What an item is read back as: itself, with a list in place of every other sequence. -/
def content : Shape → Datum → Datum
  | option _, .null => .null
  | option item, datum => item.content datum
  | list item, datum => .list ((datum.elements?.getD []).map item.content)
  | _, datum => datum

theorem exists_of_writeUint {width : Nat} {datum : Datum}
    (succeeds : (writeUint width datum).fault = none) :
    ∃ value, value < capacity width ∧ datum = .nat value ∧
      writeUint width datum = .done (leBytes width value) := by
  cases datum with
  | int value =>
      rw [writeUint] at succeeds ⊢
      split at succeeds
      · next fits =>
        rcases Int.eq_ofNat_of_zero_le fits.1 with ⟨number, rfl⟩
        refine ⟨number, ?_, rfl, ?_⟩
        · exact_mod_cast fits.2
        · rw [if_pos fits, Int.toNat_natCast]
      · cases succeeds
  | _ => cases succeeds

theorem exists_of_writeFixed {size : Nat} {datum : Datum}
    (succeeds : ((fixed (.nat size)).write datum).fault = none) :
    ∃ data, data.length = size ∧ datum = .bytes data ∧
      (fixed (.nat size)).write datum = .done data := by
  cases datum with
  | bytes data =>
      simp only [write, Datum.elements?, List.length_map] at succeeds ⊢
      split at succeeds
      · cases succeeds
      · next sized =>
        rw [if_neg sized]
        have same : (Datum.nat data.length).sameNumber (.nat size) = true := by simpa using sized
        exact ⟨data, Int.ofNat.inj (Datum.sameNumber_int_iff.1 same), rfl, rfl⟩
  | _ =>
      simp only [write] at succeeds
      repeat' split at succeeds
      all_goals cases succeeds

theorem writeLength_eq {length : Nat} (succeeds : (writeLength length).fault = none) :
    length < capacity 4 ∧ writeLength length = .done (leBytes 4 length) := by
  rcases exists_of_writeUint succeeds with ⟨value, fits, same, written⟩
  cases Int.ofNat.inj (Datum.int.inj same)
  exact ⟨fits, written⟩

theorem exists_of_writeBytes {datum : Datum} (succeeds : (writeBytes datum).fault = none) :
    ∃ data, data.length < capacity 4 ∧ datum = .bytes data ∧
      (writeBytes datum).bytes = leBytes 4 data.length ++ data := by
  cases datum with
  | bytes data =>
      rw [writeBytes] at succeeds ⊢
      rcases writeLength_eq (Written.fault_andThen.1 succeeds).1 with ⟨fits, written⟩
      refine ⟨data, fits, rfl, ?_⟩
      rw [written]
      rfl
  | _ =>
      simp only [writeBytes] at succeeds
      split at succeeds
      · cases (Written.fault_andThen.1 succeeds).2
      · cases succeeds

/-- An option that holds something is a mark and what it holds. -/
theorem write_option {item : Shape} {datum : Datum} (given : datum ≠ .null) :
    (option item).write datum = (writeUint 1 (.int 1)).andThen (item.write datum) := by
  cases datum with
  | null => exact absurd rfl given
  | _ => rfl

theorem content_option {item : Shape} {datum : Datum} (given : datum ≠ .null) :
    (option item).content datum = item.content datum := by
  cases datum with
  | null => exact absurd rfl given
  | _ => rfl

theorem exists_of_writeText {datum : Datum} (succeeds : (text.write datum).fault = none) :
    ∃ value, (utf8 value).length < capacity 4 ∧ datum = .text value ∧
      (text.write datum).bytes = leBytes 4 (utf8 value).length ++ utf8 value := by
  cases datum with
  | text value =>
      simp only [write] at succeeds ⊢
      rcases exists_of_writeBytes succeeds with ⟨data, fits, same, written⟩
      cases same
      exact ⟨value, fits, rfl, written⟩
  | _ => cases succeeds

theorem exists_of_writeList {item : Shape} {datum : Datum}
    (succeeds : ((list item).write datum).fault = none) :
    ∃ data, data.length < capacity 4 ∧ (writeItems item.write data).fault = none ∧
      (list item).content datum = .list (data.map item.content) ∧
      ((list item).write datum).bytes =
        leBytes 4 data.length ++ (writeItems item.write data).bytes := by
  rw [write] at succeeds ⊢
  rw [content]
  cases held : datum.elements? with
  | none =>
      rw [held] at succeeds
      cases succeeds
  | some data =>
      rw [held] at succeeds
      rcases Written.fault_andThen.1 succeeds with ⟨counted, rest⟩
      rcases writeLength_eq counted with ⟨fits, written⟩
      refine ⟨data, fits, rest, rfl, ?_⟩
      dsimp only
      rw [Written.bytes_andThen counted, written]
      rfl

theorem length_write_pos {shape : Shape} (solid : shape.IsSolid) {datum : Datum}
    (succeeds : (shape.write datum).fault = none) : 0 < (shape.write datum).bytes.length := by
  cases solid with
  | uint positive =>
      rcases exists_of_writeUint succeeds with ⟨value, -, -, written⟩
      rw [write, written]
      simpa [Written.done] using positive
  | fixed positive =>
      rcases exists_of_writeFixed succeeds with ⟨data, rfl, -, written⟩
      rw [written]
      exact positive
  | bytes =>
      rcases exists_of_writeBytes succeeds with ⟨data, -, -, written⟩
      rw [write, written]
      simp
  | text =>
      rcases exists_of_writeText succeeds with ⟨value, -, -, written⟩
      rw [written]
      simp
  | @option item solid =>
      by_cases absent : datum = .null
      · subst absent
        exact Nat.one_pos
      · rw [write_option absent] at succeeds ⊢
        rw [Written.bytes_andThen (Written.fault_andThen.1 succeeds).1, List.length_append]
        exact Nat.add_pos_left Nat.one_pos _
  | list solid =>
      rcases exists_of_writeList succeeds with ⟨data, -, -, -, written⟩
      rw [written]
      simp

theorem length_le_writeItems {write : Datum → Written} {data : List Datum}
    (positive : ∀ datum, (write datum).fault = none → 0 < (write datum).bytes.length)
    (succeeds : (writeItems write data).fault = none) :
    data.length ≤ (writeItems write data).bytes.length := by
  induction data with
  | nil => exact Nat.zero_le _
  | cons datum data ih =>
      rw [writeItems] at succeeds ⊢
      rcases Written.fault_andThen.1 succeeds with ⟨first, rest⟩
      have visible := positive datum first
      have bound := ih rest
      rw [Written.bytes_andThen first, List.length_append, List.length_cons]
      omega

/-- Write items one after the other behind `out`: what each of them tells and how many bytes there
are after it, and the bytes at the end. -/
def writeSteps (out : Bytes) : List (Shape × Datum) → List (Option WriteFault × Nat) × Bytes
  | [] => ([], out)
  | (shape, datum) :: items =>
    let written := shape.write datum
    let (rows, last) := writeSteps (out ++ written.bytes) items
    ((written.fault, (out ++ written.bytes).length) :: rows, last)

end Shape

end Finality
