import Finality.Proofs.Wire.Reading
import Finality.Proofs.Wire.Shapes
import Finality.Wire.Tape

/-!
# Steps that undo writing

A step on a tape takes written bytes if it gives what was written wherever the bytes stand, and if
it refuses every input that ends within them. `TapeStep.Takes` says both, so that it carries
through steps that follow each other. The step of every solid shape takes what was written in the
shape (`TapeStep.takes_ofShape`), and so do runs of such steps (`steps_undo_writing`).
-/

namespace Finality

/-- The tape of an input at the end of its first part. -/
def Tape.between (before after : Bytes) : Tape := ⟨before ++ after, before.length⟩

namespace TapeStep

variable {α β : Type}

/-- A step refuses the bytes after the position. -/
def Refuses (step : TapeStep α) (tape : Tape) : Prop :=
  ∃ report after, step tape = (.error (.refused report), after) ∧ report.reason = .decode

/-- Wherever it stands, a step takes exactly `written` and gives `value`. Where the input ends
within `written`, the step refuses the bytes. -/
structure Takes (step : TapeStep α) (written : Bytes) (value : α) : Prop where
  whole : ∀ before rest, step (.between before (written ++ rest)) =
    (.ok value, .between (before ++ written) rest)
  cut : ∀ before part, part <+: written → part ≠ written → step.Refuses (.between before part)

theorem Refuses.bind {first : TapeStep α} {tape : Tape} (refuses : first.Refuses tape)
    (next : α → TapeStep β) : (first >>= next).Refuses tape := by
  rcases refuses with ⟨report, after, refused, reason⟩
  exact ⟨report, after, Reader.bind_of_error refused, reason⟩

theorem refuses_refuse (message : String) (data : Fields) (tape : Tape) :
    (refuse message data : TapeStep α).Refuses tape := ⟨_, _, rfl, rfl⟩

theorem Refuses.of_ok {first : TapeStep α} {next : α → TapeStep β} {tape after : Tape} {value : α}
    (ran : first tape = (.ok value, after)) (refuses : (next value).Refuses after) :
    (first >>= next).Refuses tape := by
  rcases refuses with ⟨report, last, refused, reason⟩
  exact ⟨report, last, (Reader.bind_of_ok ran).trans refused, reason⟩

/-- A proper prefix of two parts ends within the first one or within the second one. -/
theorem prefix_append_cases {head tail part : Bytes} (starts : part <+: head ++ tail)
    (shorter : part ≠ head ++ tail) :
    (part <+: head ∧ part ≠ head) ∨ ∃ more, part = head ++ more ∧ more <+: tail ∧ more ≠ tail := by
  by_cases reaches : head <+: part
  · rcases reaches with ⟨more, rfl⟩
    have inTail : more <+: tail := (List.prefix_append_right_inj head).1 starts
    exact Or.inr ⟨more, rfl, inTail, fun same => shorter (congrArg (head ++ ·) same)⟩
  · have inHead := List.prefix_or_prefix_of_prefix starts (List.prefix_append head tail)
    exact Or.inl ⟨inHead.resolve_right reaches, fun same => reaches (same ▸ List.prefix_rfl)⟩

theorem takes_pure (value : α) : Takes (pure value) [] value where
  whole before rest := by
    rw [List.nil_append, List.append_nil]
    rfl
  cut before part starts shorter := absurd (List.prefix_nil.1 starts) shorter

theorem Takes.bind {first : TapeStep α} {next : α → TapeStep β} {head tail : Bytes} {value : α}
    {result : β} (headTaken : Takes first head value) (tailTaken : Takes (next value) tail result) :
    Takes (first >>= next) (head ++ tail) result where
  whole before rest := by
    rw [List.append_assoc, Reader.bind_of_ok (headTaken.whole before (tail ++ rest)),
      tailTaken.whole, List.append_assoc]
  cut before part starts shorter := by
    rcases prefix_append_cases starts shorter with ⟨inHead, cutHead⟩ | ⟨more, rfl, inTail, cutTail⟩
    · exact (headTaken.cut before part inHead cutHead).bind next
    · refine .of_ok (headTaken.whole before more) ?_
      exact tailTaken.cut (before ++ head) more inTail cutTail

/-- A last step that takes nothing leaves the bytes of the step before. -/
theorem Takes.andThen {first : TapeStep α} {next : α → TapeStep β} {written : Bytes} {value : α}
    {result : β} (taken : Takes first written value) (returned : next value = pure result) :
    Takes (first >>= next) written result := by
  have both := taken.bind (returned ▸ takes_pure result)
  rwa [List.append_nil] at both

/-! ## Single items -/

theorem remaining_between (before rest : Bytes) :
    (Tape.between before rest).remaining = rest.length := by
  simp [Tape.between, Tape.remaining]

theorem take_of_enough {tape : Tape} {count : Nat} (enough : ¬tape.remaining < count) :
    take (.nat count) tape = (.ok (tape.slice tape.offset (tape.offset + count)),
      { tape with offset := tape.offset + count }) := by
  have counted : wanted tape (.nat count) = .ok (false, some count) := by
    simp [wanted, Datum.nat, Datum.integral?, enough]
  rw [take, Reader.bind_of_ok (rfl : (get : TapeStep Tape) tape = (.ok tape, tape)), counted]
  rfl

theorem take_of_short {tape : Tape} {count : Nat} (short : tape.remaining < count) :
    take (.nat count) tape = (.error (.refused (.of .decode "truncated"
      [("offset", .int tape.offset), ("wanted", .nat count)])), tape) := by
  have counted : wanted tape (.nat count) = .ok (true, some count) := by
    simp [wanted, Datum.nat, Datum.integral?, short]
  rw [take, Reader.bind_of_ok (rfl : (get : TapeStep Tape) tape = (.ok tape, tape)), counted]
  rfl

theorem slice_between (before data rest : Bytes) :
    (Tape.between before (data ++ rest)).slice before.length (before.length + data.length) =
      data := by
  have first : ¬(before.length : Int) < 0 := by omega
  have last : ¬(before.length + data.length : Int) < 0 := by omega
  have size : (before.length + data.length : Int).toNat - before.length = data.length := by omega
  simp [Tape.slice, Tape.place, Tape.between, first, last, size]

theorem takes_take (data : Bytes) : Takes (take (.nat data.length)) data data where
  whole before rest := by
    have enough : ¬(Tape.between before (data ++ rest)).remaining < data.length := by
      rw [remaining_between, List.length_append]
      omega
    rw [take_of_enough enough]
    refine Prod.ext (congrArg Except.ok (slice_between before data rest)) ?_
    simp [Tape.between]
  cut before part starts shorter := by
    have short : part.length < data.length :=
      lt_of_le_of_ne starts.length_le fun same => shorter (starts.eq_of_length same)
    refine ⟨_, _, take_of_short ?_, rfl⟩
    rw [remaining_between]
    exact_mod_cast short

theorem takes_uint {width value : Nat} (positive : 0 < width) (fits : value < capacity width) :
    Takes (uint width) (leBytes width value) value := by
  have taken := takes_take (leBytes width value)
  rw [length_leBytes] at taken
  refine taken.andThen ?_
  have present : ¬(width = 1 ∧ (leBytes width value).isEmpty = true) := by
    rintro ⟨-, empty⟩
    have size := length_leBytes width value
    rw [List.isEmpty_iff.1 empty] at size
    exact absurd size.symm positive.ne'
  rw [if_neg present, leValue_leBytes_of_lt fits]

theorem takes_bytes {data : Bytes} (fits : data.length < capacity 4) :
    Takes bytes (leBytes 4 data.length ++ data) data :=
  (takes_uint (by decide) fits).bind (takes_take data)

theorem takes_items {item : TapeStep Datum} {write : Datum → Written} {content : Datum → Datum}
    {data : List Datum} (succeeds : (Shape.writeItems write data).fault = none)
    (taken : ∀ datum, (write datum).fault = none → Takes item (write datum).bytes (content datum)) :
    Takes (items item data.length) (Shape.writeItems write data).bytes (data.map content) := by
  induction data with
  | nil => exact takes_pure []
  | cons datum data ih =>
      rw [Shape.writeItems] at succeeds ⊢
      rcases Written.fault_andThen.1 succeeds with ⟨first, rest⟩
      rw [Written.bytes_andThen first]
      exact (taken datum first).bind ((ih rest).andThen rfl)

/-- The guard on the number of items lets those pass that take at least one byte each. -/
theorem takes_guarded {step : TapeStep α} {written : Bytes} {value : α} {count : Nat}
    (taken : Takes step written value) (enough : count ≤ written.length) (message : String)
    (data : Fields) :
    Takes (do
      if (← get).remaining < count then refuse message data
      step) written value where
  whole before rest := by
    have passes : ¬(Tape.between before (written ++ rest)).remaining < count := by
      rw [remaining_between, List.length_append]
      omega
    rw [Reader.bind_of_ok (rfl : (get : TapeStep Tape) _ = (.ok _, _)), if_neg passes]
    exact taken.whole before rest
  cut before part starts shorter := by
    apply Refuses.of_ok (rfl : (get : TapeStep Tape) _ = (.ok _, _))
    split
    · exact (refuses_refuse message data _).bind _
    · exact taken.cut before part starts shorter

/-- A step of a shape takes what was written in the shape. -/
theorem takes_ofShape {shape : Shape} (solid : shape.IsSolid) {datum : Datum}
    (succeeds : (shape.write datum).fault = none) :
    Takes (ofShape shape) (shape.write datum).bytes (shape.content datum) := by
  induction solid generalizing datum with
  | uint positive =>
      rcases Shape.exists_of_writeUint succeeds with ⟨value, fits, rfl, written⟩
      rw [Shape.write, written, ofShape]
      exact (takes_uint positive fits).andThen rfl
  | fixed positive =>
      rcases Shape.exists_of_writeFixed succeeds with ⟨data, rfl, rfl, written⟩
      rw [written, ofShape]
      exact (takes_take data).andThen rfl
  | bytes =>
      rcases Shape.exists_of_writeBytes succeeds with ⟨data, fits, rfl, written⟩
      rw [Shape.write, written, ofShape]
      exact (takes_bytes fits).andThen rfl
  | text =>
      rcases Shape.exists_of_writeText succeeds with ⟨value, fits, rfl, written⟩
      rw [written, ofShape]
      refine (takes_bytes fits).andThen ?_
      rw [ofUtf8?_utf8]
      rfl
  | @option item solid ih =>
      rw [ofShape]
      by_cases absent : datum = .null
      · subst absent
        exact (takes_uint Nat.one_pos (by decide : 0 < capacity 1)).andThen rfl
      · rw [Shape.content_option absent]
        rw [Shape.write_option absent] at succeeds ⊢
        rcases Written.fault_andThen.1 succeeds with ⟨marked, rest⟩
        rw [Written.bytes_andThen marked]
        exact (takes_uint Nat.one_pos (by decide : 1 < capacity 1)).bind (ih rest)
  | @list item solid ih =>
      rcases Shape.exists_of_writeList succeeds with ⟨data, fits, rest, content, written⟩
      rw [written, content, ofShape]
      have taken : Takes (do return .list (← items (ofShape item) data.length))
          (Shape.writeItems item.write data).bytes (Datum.list (data.map item.content)) :=
        (takes_items rest fun _ => ih).andThen rfl
      have enough : data.length ≤ (Shape.writeItems item.write data).bytes.length :=
        Shape.length_le_writeItems (fun _ => Shape.length_write_pos solid) rest
      exact (takes_uint (by decide) fits).bind (takes_guarded taken enough _ _)

/-! ## Runs of steps -/

/-- Take items of shapes one after the other: what each step gives and the position after it, and
the tape at the end. -/
def takeSteps (tape : Tape) : List Shape → List (Except TapeFault Datum × Int) × Tape
  | [] => ([], tape)
  | shape :: shapes =>
    let (result, after) := ofShape shape tape
    let (rows, last) := takeSteps after shapes
    ((result, after.offset) :: rows, last)

/-- The first step that gives no item refuses the bytes. -/
inductive RunRefuses : List (Except TapeFault Datum × Int) → Prop where
  | here {report : Report} (reason : report.reason = .decode) (offset : Int)
      (later : List (Except TapeFault Datum × Int)) :
      RunRefuses ((.error (.refused report), offset) :: later)
  | later (datum : Datum) (offset : Int) {rows : List (Except TapeFault Datum × Int)}
      (rest : RunRefuses rows) : RunRefuses ((.ok datum, offset) :: rows)

/-- Behind any bytes, steps take what was written behind them. -/
theorem exists_written {items : List (Shape × Datum)} (solid : ∀ item ∈ items, item.1.IsSolid)
    (out : Bytes) (succeeds : ∀ row ∈ (Shape.writeSteps out items).1, row.1 = none) :
    ∃ written, (Shape.writeSteps out items).2 = out ++ written ∧
      (∀ rest, takeSteps (.between out (written ++ rest)) (items.map (·.1)) =
        ((items.zip (Shape.writeSteps out items).1).map fun (item, row) =>
          (.ok (item.1.content item.2), (row.2 : Int)), .between (out ++ written) rest)) ∧
      ∀ part, part <+: written → part ≠ written →
        RunRefuses (takeSteps (.between out part) (items.map (·.1))).1 := by
  induction items generalizing out with
  | nil =>
      refine ⟨[], (List.append_nil out).symm, ?_, ?_⟩
      · intro rest
        rw [List.append_nil]
        rfl
      · intro part starts shorter
        exact absurd (List.prefix_nil.1 starts) shorter
  | cons head items ih =>
      rcases head with ⟨shape, datum⟩
      rcases List.forall_mem_cons.1 solid with ⟨firstSolid, restSolid⟩
      rcases List.forall_mem_cons.1 succeeds with ⟨firstSucceeds, restSucceeds⟩
      have taken : Takes (ofShape shape) (shape.write datum).bytes (shape.content datum) :=
        takes_ofShape firstSolid firstSucceeds
      rcases ih restSolid _ restSucceeds with ⟨tail, ends, whole, cut⟩
      refine ⟨(shape.write datum).bytes ++ tail, ?_, ?_, ?_⟩
      · rw [← List.append_assoc]
        exact ends
      · intro rest
        have first := taken.whole out (tail ++ rest)
        rw [List.append_assoc, List.map_cons, takeSteps, first]
        dsimp only
        rw [whole rest, List.append_assoc]
        simp only [Shape.writeSteps, List.zip_cons_cons, List.map_cons]
        rfl
      · intro part starts shorter
        rcases prefix_append_cases starts shorter with
          ⟨inHead, cutHead⟩ | ⟨more, rfl, inTail, cutTail⟩
        · rcases taken.cut out part inHead cutHead with ⟨report, after, refused, reason⟩
          rw [List.map_cons, takeSteps, refused]
          exact .here reason _ _
        · rw [List.map_cons, takeSteps, taken.whole out more]
          exact .later _ _ (cut more inTail cutTail)

theorem finish_eq_ok_iff {input extra : Bytes} :
    (finish (.between input extra)).1 = .ok .null ↔ extra = [] := by
  rw [finish, Reader.bind_of_ok (rfl : (get : TapeStep Tape) _ = (.ok _, _))]
  have ends : (Tape.between input extra).offset = (Tape.between input extra).input.length ↔
      extra = [] := by
    simp [Tape.between]
  rw [← ends]
  split
  · next last => exact iff_of_true rfl last
  · next left => exact iff_of_false (fun ended => nomatch ended) left

end TapeStep

/-- Steps of the same shapes undo writing that succeeds. Before any extra bytes every step gives
what was written and ends where the writing of its item ended, and nothing is left over exactly if
there are no extra bytes. On a proper prefix of the bytes a step refuses them, and all steps before
it give items. -/
theorem steps_undo_writing {items : List (Shape × Datum)}
    (solid : ∀ item ∈ items, item.1.IsSolid)
    (succeeds : ∀ row ∈ (Shape.writeSteps [] items).1, row.1 = none) :
    let rows := (Shape.writeSteps [] items).1
    let out := (Shape.writeSteps [] items).2
    (∀ extra,
      TapeStep.takeSteps (.start (out ++ extra)) (items.map (·.1)) =
        ((items.zip rows).map fun (item, row) => (.ok (item.1.content item.2), (row.2 : Int)),
          ⟨out ++ extra, out.length⟩) ∧
      ((TapeStep.finish ⟨out ++ extra, out.length⟩).1 = .ok .null ↔ extra = [])) ∧
    ∀ part, part <+: out → part ≠ out →
      TapeStep.RunRefuses (TapeStep.takeSteps (.start part) (items.map (·.1))).1 := by
  intro rows out
  rcases TapeStep.exists_written solid [] succeeds with ⟨written, ends, whole, cut⟩
  rw [List.nil_append] at ends whole
  have same : out = written := ends
  subst same
  exact ⟨fun extra => ⟨whole extra, TapeStep.finish_eq_ok_iff⟩, cut⟩

namespace Sample

/-- A number, an optional text, and a sequence of optional byte strings of two bytes each, which is
given as a tuple. -/
def steps : List (Shape × Datum) :=
  [(.uint 4, .int 7), (.option .text, .text "a"),
    (.list (.option (.fixed (.nat 2))), .tuple [.null, .bytes [1, 2]])]

theorem steps_isSolid : ∀ step ∈ steps, step.1.IsSolid := by
  simp only [steps, List.forall_mem_cons]
  exact ⟨.uint (by decide), .option .text, .list (.option (.fixed (by decide))), nofun⟩

end Sample

/-- The bytes before one more byte are undone, and without their last byte they are refused. -/
theorem steps_undo_writing_sample :
    TapeStep.takeSteps
        (.start [7, 0, 0, 0, 1, 1, 0, 0, 0, 97, 2, 0, 0, 0, 0, 1, 1, 2, 255])
        (Sample.steps.map (·.1)) =
      ([(.ok (.int 7), 4), (.ok (.text "a"), 10),
          (.ok (.list [.null, .bytes [1, 2]]), 18)],
        ⟨[7, 0, 0, 0, 1, 1, 0, 0, 0, 97, 2, 0, 0, 0, 0, 1, 1, 2, 255], 18⟩) ∧
      TapeStep.RunRefuses (TapeStep.takeSteps
        (.start [7, 0, 0, 0, 1, 1, 0, 0, 0, 97, 2, 0, 0, 0, 0, 1, 1])
        (Sample.steps.map (·.1))).1 := by
  have succeeds : ∀ row ∈ (Shape.writeSteps [] Sample.steps).1, row.1 = none := by
    have rows : (Shape.writeSteps [] Sample.steps).1 = [(none, 4), (none, 10), (none, 18)] := rfl
    rw [rows]
    simp
  rcases steps_undo_writing Sample.steps_isSolid succeeds with ⟨whole, cut⟩
  exact ⟨(whole [255]).1, cut _ ⟨[2], rfl⟩ (by decide)⟩

end Finality
