import Finality.Rejection

/-!
# Outcomes step by step

A computation of several steps succeeds if all of them do, and it fails as the first
step does that fails. The lemmas here take outcomes apart in this way, so that no other
proof opens the steps of a call. `Outcome.FailsWith` carries what is known about all failures
of a computation through its steps, and `Outcome.FailsUnless` singles one failure out that
is there under a condition only. Where it does not matter what failures are, the lemmas are
about any.
-/

namespace Finality.Outcome

variable {α β ε : Type}

/-- Two steps succeed if both do. -/
theorem bind_eq_ok_iff {first : Except ε α} {next : α → Except ε β} {result : β} :
    (first >>= next) = .ok result ↔ ∃ value, first = .ok value ∧ next value = .ok result := by
  cases first with
  | error failure =>
      constructor
      · intro equal
        cases equal
      · intro given
        rcases given with ⟨_, equal, _⟩
        cases equal
  | ok value =>
      constructor
      · intro equal
        exact ⟨value, rfl, equal⟩
      · intro given
        rcases given with ⟨other, equal, rest⟩
        cases equal
        exact rest

theorem bind_eq_error_iff {first : Except ε α} {next : α → Except ε β} {failure : ε} :
    (first >>= next) = .error failure ↔
      first = .error failure ∨ ∃ value, first = .ok value ∧ next value = .error failure := by
  cases first with
  | error cause =>
      constructor
      · intro equal
        cases equal
        exact Or.inl rfl
      · intro given
        rcases given with equal | ⟨_, equal, _⟩
        · cases equal
          rfl
        · cases equal
  | ok value =>
      constructor
      · intro equal
        exact Or.inr ⟨value, rfl, equal⟩
      · intro given
        rcases given with equal | ⟨other, equal, rest⟩
        · cases equal
        · cases equal
          exact rest

/-- A step that succeeds is followed by the next one. -/
theorem bind_of_ok {first : Except ε α} {next : α → Except ε β} {value : α}
    (passed : first = .ok value) : (first >>= next) = next value := by
  rw [passed]
  rfl

/-- A step that fails ends the computation. -/
theorem bind_of_error {first : Except ε α} {next : α → Except ε β} {failure : ε}
    (failed : first = .error failure) : (first >>= next) = .error failure := by
  rw [failed]
  rfl

/-- Only on what the first step gives have two continuations to agree. -/
theorem bind_congr {first : Except ε α} {next other : α → Except ε β}
    (same : ∀ value, first = .ok value → next value = other value) :
    (first >>= next) = first >>= other := by
  cases first with
  | error failure => rfl
  | ok value => exact same value rfl

/-- What is made of a result does not matter for how an outcome fails. -/
theorem map_eq_error_iff {outcome : Except ε α} {read : α → β} {failure : ε} :
    outcome.map read = .error failure ↔ outcome = .error failure := by
  cases outcome with
  | error other =>
      constructor <;> intro equal <;> cases equal <;> rfl
  | ok value =>
      constructor <;> intro equal <;> cases equal

theorem map_eq_ok_iff {outcome : Except ε α} {read : α → β} {result : β} :
    outcome.map read = .ok result ↔ ∃ value, outcome = .ok value ∧ read value = result := by
  cases outcome with
  | error failure => exact ⟨nofun, nofun⟩
  | ok value =>
      constructor
      · intro equal
        cases equal
        exact ⟨value, rfl, rfl⟩
      · rintro ⟨other, equal, rfl⟩
        cases equal
        rfl

/-- How a failure is told does not matter for what a computation gives. -/
theorem mapError_eq_ok_iff {δ : Type} {outcome : Except ε α} {tell : ε → δ} {value : α} :
    outcome.mapError tell = .ok value ↔ outcome = .ok value := by
  cases outcome with
  | error failure =>
      constructor <;> intro equal <;> cases equal
  | ok other =>
      constructor <;> intro equal <;> cases equal <;> rfl

theorem mapError_eq_error_iff {δ : Type} {outcome : Except ε α} {tell : ε → δ} {failure : δ} :
    outcome.mapError tell = .error failure ↔
      ∃ cause, outcome = .error cause ∧ tell cause = failure := by
  cases outcome with
  | error cause =>
      constructor
      · intro equal
        cases equal
        exact ⟨cause, rfl, rfl⟩
      · rintro ⟨other, equal, rfl⟩
        cases equal
        rfl
  | ok value =>
      constructor
      · intro equal
        cases equal
      · rintro ⟨cause, equal, -⟩
        cases equal

theorem orReject_eq_ok_iff {result : Except Rejection α} {value : α} :
    orReject result = .ok value ↔ result = .ok value := by
  cases result with
  | error rejection =>
      constructor <;> intro equal <;> cases equal
  | ok other =>
      constructor <;> intro equal <;> cases equal <;> rfl

theorem orReject_eq_error_iff {result : Except Rejection α} {failure : Failure} :
    orReject result = .error failure ↔
      ∃ rejection, result = .error rejection ∧ failure = .rejected rejection := by
  cases result with
  | error rejection =>
      constructor
      · intro equal
        cases equal
        exact ⟨rejection, rfl, rfl⟩
      · intro given
        rcases given with ⟨other, equal, rfl⟩
        cases equal
        rfl
  | ok value =>
      constructor
      · intro equal
        cases equal
      · intro given
        rcases given with ⟨other, equal, -⟩
        cases equal

@[simp] theorem reject_ne_ok {rejection : Rejection} {value : α} :
    reject rejection ≠ .ok value := by
  intro equal
  cases equal

/-- A step that is turned down under a condition is passed if the condition fails. -/
theorem guard_eq_ok_iff {condition : Prop} [Decidable condition] {rejection : Rejection}
    {after : α → Outcome β} {rest : Outcome β} {result : β} :
    (if condition then reject rejection >>= after else rest) = .ok result ↔
      ¬condition ∧ rest = .ok result := by
  by_cases holds : condition
  · rw [if_pos holds]
    constructor
    · intro equal
      cases equal
    · intro given
      rcases given with ⟨fails, -⟩
      exact absurd holds fails
  · rw [if_neg holds]
    exact ⟨fun equal => ⟨holds, equal⟩, fun passed => passed.2⟩

/-- Every failure of an outcome has a property. -/
def FailsWith (property : ε → Prop) (outcome : Except ε α) : Prop :=
  ∀ failure, outcome = .error failure → property failure

namespace FailsWith

section

variable {property : ε → Prop}

theorem ok (value : α) : FailsWith property (.ok value) := by
  intro failure equal
  cases equal

theorem error {failure : ε} (holds : property failure) :
    FailsWith property (.error failure : Except ε α) := by
  intro other equal
  cases equal
  exact holds

/-- Failures keep every property that follows from theirs. -/
theorem mono {weaker : ε → Prop} {outcome : Except ε α} (fails : FailsWith property outcome)
    (follows : ∀ failure, property failure → weaker failure) : FailsWith weaker outcome := by
  intro failure failed
  exact follows failure (fails failure failed)

theorem bind {first : Except ε α} {next : α → Except ε β} (firstFails : FailsWith property first)
    (nextFails : ∀ value, first = .ok value → FailsWith property (next value)) :
    FailsWith property (first >>= next) := by
  intro failure failed
  rcases bind_eq_error_iff.1 failed with failed | ⟨value, passed, failed⟩
  · exact firstFails failure failed
  · exact nextFails value passed failure failed

theorem map {read : α → β} {outcome : Except ε α} (fails : FailsWith property outcome) :
    FailsWith property (outcome.map read) := by
  intro failure failed
  exact fails failure (map_eq_error_iff.1 failed)

end

variable {property : Failure → Prop}

theorem orReject {result : Except Rejection α}
    (holds : ∀ rejection, result = .error rejection → property (.rejected rejection)) :
    FailsWith property (Finality.orReject result) := by
  intro failure failed
  rcases orReject_eq_error_iff.1 failed with ⟨rejection, rejected, rfl⟩
  exact holds rejection rejected

theorem guard {condition : Prop} [Decidable condition] {rejection : Rejection}
    {after : α → Outcome β} {rest : Outcome β} (holds : property (.rejected rejection))
    (restFails : FailsWith property rest) :
    FailsWith property (if condition then reject rejection >>= after else rest) := by
  split
  · exact error holds
  · exact restFails

theorem foldlM {step : β → α → Outcome β} {items : List α}
    (stepFails : ∀ total, ∀ item ∈ items, FailsWith property (step total item)) (start : β) :
    FailsWith property (items.foldlM step start) := by
  induction items generalizing start with
  | nil => exact ok start
  | cons item items ih =>
      rw [List.foldlM_cons]
      refine bind (stepFails start item List.mem_cons_self) fun total _ => ?_
      exact ih (fun total other member => stepFails total other (List.mem_cons_of_mem _ member))
        total

end FailsWith

/-! ## One failure apart -/

section

variable {property : ε → Prop} {escape : ε} {condition : Prop} {outcome : Except ε α}

/-- A failure has a property, or it is the one that escapes under a condition. -/
def OrEscapes (property : ε → Prop) (escape : ε) (condition : Prop) (failure : ε) : Prop :=
  property failure ∨ (failure = escape ∧ condition)

theorem FailsWith.orEscapes (fails : FailsWith property outcome) :
    FailsWith (OrEscapes property escape condition) outcome :=
  fails.mono fun _ => Or.inl

theorem FailsWith.weaken {weaker : ε → Prop} {other : Prop}
    (fails : FailsWith (OrEscapes property escape condition) outcome)
    (properties : ∀ failure, property failure → weaker failure) (conditions : condition → other) :
    FailsWith (OrEscapes weaker escape other) outcome := by
  intro failure failed
  rcases fails failure failed with holds | ⟨escapes, holds⟩
  · exact Or.inl (properties failure holds)
  · exact Or.inr ⟨escapes, conditions holds⟩

/-- All failures but one have a property, and this one is there exactly under a condition. -/
structure FailsUnless (property : ε → Prop) (escape : ε) (condition : Prop)
    (outcome : Except ε α) : Prop where
  others : ∀ failure, outcome = .error failure → property failure ∨ failure = escape
  escapes_iff : outcome = .error escape ↔ condition

theorem FailsUnless.of_failsWith
    (fails : FailsWith (OrEscapes property escape condition) outcome)
    (excluded : ¬property escape) (escapes : condition → outcome = .error escape) :
    FailsUnless property escape condition outcome where
  others := fun failure failed => (fails failure failed).imp_right And.left
  escapes_iff := by
    constructor
    · intro failed
      rcases fails escape failed with holds | ⟨-, holds⟩
      · exact absurd holds excluded
      · exact holds
    · exact escapes

theorem FailsUnless.map (fails : FailsUnless property escape condition outcome) (read : α → β) :
    FailsUnless property escape condition (outcome.map read) where
  others := fun failure failed => fails.others failure (map_eq_error_iff.1 failed)
  escapes_iff := map_eq_error_iff.trans fails.escapes_iff

end

/-- A step that succeeds on every item succeeds on all of them. -/
theorem exists_mapM_ok {step : α → Except ε β} {items : List α}
    (succeeds : ∀ item ∈ items, ∃ result, step item = .ok result) :
    ∃ results, items.mapM step = .ok results := by
  induction items with
  | nil => exact ⟨[], rfl⟩
  | cons item items ih =>
      rcases List.forall_mem_cons.1 succeeds with ⟨⟨result, passed⟩, restSucceeds⟩
      rcases ih restSucceeds with ⟨results, rest⟩
      refine ⟨result :: results, ?_⟩
      rw [List.mapM_cons, passed, rest]
      rfl

/-- Steps fail at the first item that a step fails on. -/
theorem mapM_eq_error_iff {step : α → Except ε β} {items : List α} {failure : ε} :
    items.mapM step = .error failure ↔
      ∃ before item after, items = before ++ item :: after ∧
        (∀ other ∈ before, ∃ result, step other = .ok result) ∧ step item = .error failure := by
  induction items with
  | nil =>
      constructor
      · intro failed
        cases failed
      · rintro ⟨before, item, after, equal, -⟩
        cases (List.append_eq_nil_iff.1 equal.symm).2
  | cons first items ih =>
      rw [List.mapM_cons, bind_eq_error_iff]
      constructor
      · rintro (failed | ⟨result, passed, failed⟩)
        · exact ⟨[], first, items, rfl, fun _ member => absurd member List.not_mem_nil, failed⟩
        · rcases bind_eq_error_iff.1 failed with failed | ⟨results, -, ended⟩
          · rcases ih.1 failed with ⟨before, item, after, rfl, passes, failed⟩
            exact ⟨first :: before, item, after, rfl,
              List.forall_mem_cons.2 ⟨⟨result, passed⟩, passes⟩, failed⟩
          · cases ended
      · rintro ⟨before, item, after, equal, passes, failed⟩
        cases before with
        | nil =>
            cases equal
            exact Or.inl failed
        | cons other before =>
            cases equal
            rcases List.forall_mem_cons.1 passes with ⟨⟨result, passed⟩, passes⟩
            have rest := ih.2 ⟨before, item, after, rfl, passes, failed⟩
            exact Or.inr ⟨result, passed, bind_eq_error_iff.2 (Or.inl rest)⟩

/-- Items are read off the results of a step that can be undone. -/
theorem map_of_mapM_ok {step : α → Except ε β} {back : β → α}
    {items : List α} {results : List β} (ran : items.mapM step = .ok results)
    (undone : ∀ item ∈ items, ∀ result, step item = .ok result → back result = item) :
    results.map back = items := by
  induction items generalizing results with
  | nil =>
      cases ran
      rfl
  | cons item items ih =>
      rw [List.mapM_cons, bind_eq_ok_iff] at ran
      rcases ran with ⟨first, passed, ran⟩
      rw [bind_eq_ok_iff] at ran
      rcases ran with ⟨others, rest, ended⟩
      cases ended
      rcases List.forall_mem_cons.1 undone with ⟨firstUndone, restUndone⟩
      rw [List.map_cons, firstUndone first passed, ih rest restUndone]

/-- A step that undoes what made its items gives what they were made of. -/
theorem mapM_map_ok {step : α → Except ε β} {make : β → α}
    (undoes : ∀ value, step (make value) = .ok value) (values : List β) :
    (values.map make).mapM step = .ok values := by
  induction values with
  | nil => rfl
  | cons value values ih =>
      rw [List.map_cons, List.mapM_cons, undoes, ih]
      rfl

/-- What is read off a result can be computed with it. -/
theorem exists_of_map {outcome : Outcome α} {read : α → β} {part : β}
    (found : outcome.toOption.map read = some part) :
    ∃ value, outcome = .ok value ∧ read value = part := by
  cases outcome with
  | error failure => cases found
  | ok value => exact ⟨value, rfl, Option.some.inj found⟩

/-- Succeeding can be computed. -/
theorem exists_of_isOk {outcome : Outcome α} (succeeds : outcome.isOk = true) :
    ∃ value, outcome = .ok value := by
  cases outcome with
  | error failure => cases succeeds
  | ok value => exact ⟨value, rfl⟩

end Finality.Outcome
