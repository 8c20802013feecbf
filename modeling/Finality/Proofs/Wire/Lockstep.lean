import Finality.Proofs.Wire.Stepwise

/-!
# Steps by hand and readers

A step on a tape can move the position anywhere, a reader only takes bytes off the front. As
long as sizes are natural numbers the two agree: `Shape.IsReadBy` says which reader goes with a
shape, and `TapeStep.follows_ofShape` that the step of the shape gives the same item, stops at
the same byte and refuses the same inputs for the same reasons. So a run of steps over a tape is
a run of readers over a cursor (`TapeStep.takeSteps_follow`), and a whole input that is read by
hand is decoded as the typed values are (`TapeStep.sameEnd_runOn`).
-/

namespace Finality

/-- A cursor stands in an input: what is before it and what is left make up the input. -/
def Cursor.In (input : Bytes) (cursor : Cursor) : Prop :=
  ∃ before, input = before ++ cursor.rest ∧ before.length = cursor.offset

/-- The tape of an input at the place of a cursor. -/
def Cursor.tape (input : Bytes) (cursor : Cursor) : Tape := ⟨input, cursor.offset⟩

theorem Cursor.start_in (input : Bytes) : (Cursor.start input).In input := ⟨[], rfl, rfl⟩

namespace TapeStep

variable {α β : Type} {input : Bytes} {cursor : Cursor}

/-- A reader and a step end in the same way: they give the same item, or they refuse the bytes and
report the same fault. -/
inductive SameEnd : Except FormFault α → Except TapeFault α → Prop where
  | ok (value : α) : SameEnd (.ok value) (.ok value)
  | refused (fault : DecodeFault) :
      SameEnd (.error (.decode fault)) (.error (.refused fault.report))

/-- A reader and a step end in the same way, at the same place of the input. -/
inductive SameResult (input : Bytes) :
    Except FormFault α × Cursor → Except TapeFault α × Tape → Prop where
  | together {outcome : Except FormFault α} {result : Except TapeFault α} {cursor : Cursor}
      (same : SameEnd outcome result) (within : cursor.In input) :
      SameResult input (outcome, cursor) (result, cursor.tape input)

theorem SameResult.sameEnd {read : Except FormFault α × Cursor}
    {stepped : Except TapeFault α × Tape} (same : SameResult input read stepped) :
    SameEnd read.1 stepped.1 := by
  rcases same with ⟨same, -⟩
  exact same

/-- Wherever it stands, a step does what a reader does. -/
def Follows (step : TapeStep α) (reader : Reader α) : Prop :=
  ∀ input cursor, cursor.In input → SameResult input (reader cursor) (step (cursor.tape input))

theorem SameResult.pure (value : α) (within : cursor.In input) :
    SameResult input ((Pure.pure value : Reader α) cursor)
      ((Pure.pure value : TapeStep α) (cursor.tape input)) :=
  .together (.ok value) within

theorem SameResult.refuse (fault : DecodeFault) (within : cursor.In input) :
    SameResult input ((Reader.fail fault : Reader α) cursor)
      ((TapeStep.refuse fault.message fault.data : TapeStep α) (cursor.tape input)) :=
  .together (.refused fault) within

/-- What comes next has to agree only where the first reader has come to. -/
theorem SameResult.bind {first : TapeStep α} {reader : Reader α} {next : α → TapeStep β}
    {nextReader : α → Reader β}
    (same : SameResult input (reader cursor) (first (cursor.tape input)))
    (rest : ∀ value after, reader cursor = (.ok value, after) → after.In input →
      SameResult input (nextReader value after) (next value (after.tape input))) :
    SameResult input ((reader >>= nextReader) cursor) ((first >>= next) (cursor.tape input)) := by
  generalize readerRan : reader cursor = read at same
  generalize stepRan : first (cursor.tape input) = stepped at same
  rcases same with ⟨same, within⟩
  cases same with
  | ok value =>
      rw [Reader.bind_of_ok readerRan, Reader.bind_of_ok stepRan]
      exact rest value _ readerRan within
  | refused fault =>
      rw [Reader.bind_of_error readerRan, Reader.bind_of_error stepRan]
      exact .together (.refused fault) within

theorem Follows.bind {first : TapeStep α} {reader : Reader α} {next : α → TapeStep β}
    {nextReader : α → Reader β} (follows : first.Follows reader)
    (rest : ∀ value, (next value).Follows (nextReader value)) :
    (first >>= next).Follows (reader >>= nextReader) := by
  intro input cursor within
  exact (follows input cursor within).bind fun value after _ => rest value input after

theorem follows_pure (value : α) : Follows (pure value) (pure value) := by
  intro input cursor within
  exact .pure value within

/-! ## Single items -/

theorem follows_take (size : Nat) : Follows (take (.nat size)) (Reader.take size) := by
  rintro _ ⟨_, after⟩ ⟨before, rfl, rfl⟩
  change SameResult _ (Reader.take size ⟨before.length, after⟩)
    (take (.nat size) (.between before after))
  by_cases short : after.length < size
  · have refused : take (.nat size) (.between before after) =
        (.error (.refused (DecodeFault.truncated before.length size).report),
          .between before after) := by
      apply take_of_short
      rw [remaining_between]
      exact_mod_cast short
    have read : Reader.take size ⟨before.length, after⟩ =
        (.error (.decode (.truncated before.length size)), ⟨before.length, after⟩) :=
      Reader.bind_of_error (dif_pos short)
    rw [refused, read]
    exact .together (.refused _) ⟨before, rfl, rfl⟩
  · obtain ⟨data, rest, rfl, rfl⟩ : ∃ data rest, after = data ++ rest ∧ data.length = size :=
      ⟨after.take size, after.drop size, (List.take_append_drop size after).symm,
        List.length_take_of_le (Nat.not_lt.1 short)⟩
    rw [(takes_take data).whole, Reader.reads_take data, ← List.append_assoc, ← List.length_append]
    exact .together (.ok data) ⟨before ++ data, rfl, rfl⟩

theorem of_take_eq_ok {size : Nat} {data : Bytes} {after : Cursor}
    (taken : Reader.take size cursor = (.ok data, after)) :
    data.length = size ∧ after.offset = cursor.offset + size := by
  by_cases short : cursor.rest.length < size
  · rw [Reader.take, Reader.bind_of_error (dif_pos short)] at taken
    cases taken
  · rw [Reader.take, Reader.bind_of_ok (dif_neg short)] at taken
    cases taken
    exact ⟨List.length_take_of_le (Nat.not_lt.1 short), rfl⟩

theorem offset_of_uint {width value : Nat} {after : Cursor}
    (read : Reader.uint width cursor = (.ok value, after)) :
    after.offset = cursor.offset + width := by
  rcases taken : Reader.take width cursor with ⟨fault | data, last⟩
  · rw [Reader.uint, Reader.bind_of_error taken] at read
    cases read
  · rw [Reader.uint, Reader.bind_of_ok taken] at read
    cases read
    exact (of_take_eq_ok taken).2

theorem follows_uint (width : Nat) : Follows (uint width) (Reader.uint width) := by
  intro input cursor within
  refine (follows_take width input cursor within).bind ?_
  intro data after taken afterWithin
  have present : ¬(width = 1 ∧ data.isEmpty = true) := by
    rintro ⟨rfl, empty⟩
    have size := (of_take_eq_ok taken).1
    rw [List.isEmpty_iff.1 empty] at size
    cases size
  rw [if_neg present]
  exact .pure _ afterWithin

theorem follows_bytes : Follows bytes Reader.bytes :=
  (follows_uint 4).bind follows_take

theorem remaining_tape (within : cursor.In input) :
    (cursor.tape input).remaining = cursor.rest.length := by
  rcases within with ⟨before, rfl, placed⟩
  simp [Cursor.tape, Tape.remaining, ← placed]

/-- Both refuse a number of items that the bytes left cannot hold. -/
theorem Follows.guarded {step : TapeStep α} {reader : Reader α} (follows : step.Follows reader)
    (count : Nat) :
    Follows (do
      if (← get).remaining < count then
        refuse (DecodeFault.sequenceLength count).message (DecodeFault.sequenceLength count).data
      step) (do
      Reader.checkCount count
      reader) := by
  intro input cursor within
  rw [Reader.bind_of_ok (rfl : (get : TapeStep Tape) _ = (.ok _, _)), remaining_tape within]
  by_cases short : cursor.rest.length < count
  · have refused : Reader.checkCount count cursor =
        (.error (.decode (.sequenceLength count)), cursor) := if_pos short
    rw [Reader.bind_of_error refused, if_pos (Int.ofNat_lt.2 short)]
    exact .together (.refused (.sequenceLength count)) within
  · have passed : Reader.checkCount count cursor = (.ok (), cursor) := if_neg short
    rw [Reader.bind_of_ok passed, if_neg (mt Int.ofNat_lt.1 short)]
    exact follows input cursor within

theorem follows_items {item : TapeStep Datum} {reader : Reader Datum}
    (follows : item.Follows reader) (count : Nat) :
    (items item count).Follows (Reader.items reader count) := by
  induction count with
  | zero => exact follows_pure []
  | succ count ih => exact follows.bind fun _ => ih.bind fun _ => follows_pure _

end TapeStep

/-! ## Shapes -/

/-- The reader that takes the items of a shape, as data. -/
inductive Shape.IsReadBy : Shape → Reader Datum → Prop where
  | uint (width : Nat) : IsReadBy (.uint width) (return .nat (← Reader.uint width))
  | fixed (size : Nat) : IsReadBy (.fixed (.nat size)) (return .bytes (← Reader.take size))
  | bytes : IsReadBy .bytes (return .bytes (← Reader.bytes))
  | text : IsReadBy .text (return .text (← Reader.text))
  | option {item : Shape} {reader : Reader Datum} (isRead : item.IsReadBy reader) :
      IsReadBy (.option item) (return (← Reader.option reader).getD .null)
  | list {item : Shape} {reader : Reader Datum} (isRead : item.IsReadBy reader) :
      IsReadBy (.list item) (return .list (← Reader.list reader))

theorem Shape.IsSolid.exists_reader {shape : Shape} (solid : shape.IsSolid) :
    ∃ reader, shape.IsReadBy reader := by
  induction solid with
  | uint positive => exact ⟨_, .uint _⟩
  | fixed positive => exact ⟨_, .fixed _⟩
  | bytes => exact ⟨_, .bytes⟩
  | text => exact ⟨_, .text⟩
  | option solid ih =>
      rcases ih with ⟨reader, isRead⟩
      exact ⟨_, .option isRead⟩
  | list solid ih =>
      rcases ih with ⟨reader, isRead⟩
      exact ⟨_, .list isRead⟩

namespace TapeStep

variable {input : Bytes} {cursor : Cursor}

/-- The step of a shape does what its reader does. -/
theorem follows_ofShape {shape : Shape} {reader : Reader Datum} (isRead : shape.IsReadBy reader) :
    (ofShape shape).Follows reader := by
  induction isRead with
  | uint width => exact (follows_uint width).bind fun _ => follows_pure _
  | fixed size => exact (follows_take size).bind fun _ => follows_pure _
  | bytes => exact follows_bytes.bind fun _ => follows_pure _
  | text =>
      rw [Reader.text, bind_assoc]
      refine follows_bytes.bind fun data => ?_
      intro input cursor within
      cases ofUtf8? data with
      | some text => exact .pure _ within
      | none => exact .refuse .utf8 within
  | @option item reader isRead ih =>
      rw [Reader.option, bind_assoc]
      intro input cursor within
      refine (follows_uint 1 input cursor within).bind ?_
      intro tag after marked afterWithin
      match tag with
      | 0 => exact .pure _ afterWithin
      | 1 =>
          have present : ((reader >>= fun value => pure (some value)) >>= fun given =>
              pure (given.getD .null)) = reader := by
            simp only [bind_assoc, pure_bind, Option.getD_some, bind_pure]
          have same := ih input after afterWithin
          rw [← present] at same
          exact same
      | tag + 2 =>
          -- A mark was taken, so the offset is above zero and its predecessor is one of integers.
          have offset : ((after.offset - 1 : Nat) : Int) = after.offset - 1 := by
            have moved := offset_of_uint marked
            omega
          have report : (DecodeFault.optionTag (tag + 2) (after.offset - 1)).report =
              .of .decode "invalid option tag"
                [("tag", .nat (tag + 2)), ("offset", .int (after.offset - 1))] := by
            rw [← offset]
            rfl
          have same := @SameEnd.refused Datum (.optionTag (tag + 2) (after.offset - 1))
          rw [report] at same
          exact .together same afterWithin
  | @list item reader isRead ih =>
      simp only [Reader.list, bind_assoc]
      refine (follows_uint 4).bind fun count => ?_
      exact ((follows_items ih count).bind fun _ => follows_pure _).guarded count

/-- Both refuse bytes that are left over. -/
theorem follows_finish : Follows finish (do Reader.finish; return .null) := by
  intro input cursor within
  have remaining := remaining_tape within
  rw [finish, Reader.bind_of_ok (rfl : (get : TapeStep Tape) _ = (.ok _, _)), remaining]
  rw [Tape.remaining] at remaining
  cases left : cursor.rest with
  | nil =>
      rw [left] at remaining
      have ended : (cursor.tape input).offset = (cursor.tape input).input.length :=
        (Int.sub_eq_zero.1 remaining).symm
      have passed : Reader.finish cursor = (.ok (), cursor) := by
        rw [Reader.finish, left]
        rfl
      rw [if_pos ended, Reader.bind_of_ok passed]
      exact .pure _ within
  | cons byte rest =>
      have short : (cursor.tape input).offset ≠ (cursor.tape input).input.length := by
        intro ended
        rw [left, ended, Int.sub_self] at remaining
        exact absurd remaining.symm (Int.ofNat_ne_zero.2 (Nat.succ_ne_zero rest.length))
      have refused : Reader.finish cursor =
          (.error (.decode (.trailing cursor.offset cursor.rest.length)), cursor) := by
        rw [Reader.finish, left]
        rfl
      rw [if_neg short, Reader.bind_of_error refused, ← left]
      exact .together (.refused (.trailing cursor.offset cursor.rest.length)) within

/-- A whole input that holds one item of a shape is read by hand as the reader decodes it. -/
theorem sameEnd_runOn {shape : Shape} {reader : Reader Datum} (isRead : shape.IsReadBy reader)
    (input : Bytes) :
    SameEnd (reader.runOn input)
      ((do
        let item ← ofShape shape
        let _ ← finish
        return item : TapeStep Datum) (.start input)).1 := by
  have ends : ∀ item : Datum, Follows (do let _ ← finish; return item)
      (do Reader.finish; return item) := by
    intro item
    have follows := follows_finish.bind fun _ => follows_pure item
    rw [bind_assoc] at follows
    exact follows
  exact (((follows_ofShape isRead).bind ends) input _ (Cursor.start_in input)).sameEnd

/-- Items of readers taken one after the other, as `takeSteps` takes those of shapes. -/
def readSteps (cursor : Cursor) : List (Reader Datum) → List (Except FormFault Datum × Nat) × Cursor
  | [] => ([], cursor)
  | reader :: readers =>
    let (result, after) := reader cursor
    let (rows, last) := readSteps after readers
    ((result, after.offset) :: rows, last)

/-- A run of steps, also one that goes on after a refusal, is a run of readers. -/
theorem takeSteps_follow {shapes : List Shape} {readers : List (Reader Datum)}
    (each : List.Forall₂ Shape.IsReadBy shapes readers) {cursor : Cursor}
    (within : cursor.In input) :
    List.Forall₂ (fun read stepped => SameEnd read.1 stepped.1 ∧ stepped.2 = read.2)
        (readSteps cursor readers).1 (takeSteps (cursor.tape input) shapes).1 ∧
      (readSteps cursor readers).2.In input ∧
      (takeSteps (cursor.tape input) shapes).2 = (readSteps cursor readers).2.tape input := by
  induction each generalizing cursor with
  | nil => exact ⟨.nil, within, rfl⟩
  | @cons shape reader shapes readers isRead each ih =>
      have same := follows_ofShape isRead input cursor within
      rw [readSteps, takeSteps]
      generalize reader cursor = read at same
      generalize ofShape shape (cursor.tape input) = stepped at same
      rcases same with ⟨same, within⟩
      rcases ih within with ⟨rows, lastWithin, last⟩
      exact ⟨.cons ⟨same, rfl⟩ rows, lastWithin, last⟩

end TapeStep

end Finality
