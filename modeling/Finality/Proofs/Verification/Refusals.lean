import Finality.Proofs.Verification.Conditions

/-!
# How verification is refused

What is turned down is turned down for a reason that can be reported, and misbehaviour always
as not proven (`verifyHeader_refuses`, `detect_refuses`). There is one exception: the
message that approvals sign ends in a height two above the one of the header, so for a header
at one of the two greatest heights there is no message, and the call ends in an overflow
before any approval is looked at (`Header.Overflows`, `Misbehaviour.Overflows`).
-/

namespace Finality

/-- A failure is a rejection, which can be reported. -/
def Failure.IsRejection (failure : Failure) : Prop :=
  ∃ rejection, failure = .rejected rejection

/-- A failure is reported as misbehaviour that is not proven. -/
def Failure.IsNotProven (failure : Failure) : Prop :=
  ∃ rejection, failure = .rejected rejection ∧
    rejection.report.reason = .misbehaviourNotProven

theorem Failure.not_isRejection_heightOverflow : ¬heightOverflow.IsRejection := by
  rintro ⟨rejection, equal⟩
  cases equal

theorem Failure.IsNotProven.isRejection {failure : Failure} (notProven : failure.IsNotProven) :
    failure.IsRejection := by
  rcases notProven with ⟨rejection, equal, -⟩
  exact ⟨rejection, equal⟩

/-- Whatever is turned down by a rejection fails with it. -/
theorem Outcome.orReject_isRejection {α : Type} {result : Except Rejection α} :
    FailsWith Failure.IsRejection (orReject result) :=
  .orReject fun rejection _ => ⟨rejection, rfl⟩

theorem Outcome.reject_isRejection {α : Type} {rejection : Rejection} :
    FailsWith Failure.IsRejection (reject rejection : Outcome α) :=
  .error ⟨rejection, rfl⟩

/-- A header reaches the point where its message is made and has none. -/
structure Header.Overflows (config : Config) (trusted : Snapshot) (header : Header) : Prop where
  above : trusted.height < header.height
  active : ∃ selection, header.ActiveRoster config.limits.maxValidators trusted selection
  greatest : 2 ^ 64 ≤ header.inner.height.toNat + 2

/-- One of the headers of misbehaviour overflows, and no earlier check fails. -/
structure Misbehaviour.Overflows [Signing] (config : Config) (trusted : Snapshot)
    (misbehaviour : Misbehaviour) : Prop where
  differ : misbehaviour.first ≠ misbehaviour.second
  overflows : misbehaviour.first.Overflows config trusted ∨
    (∃ verified, verifyHeader config trusted misbehaviour.first = .ok verified) ∧
      misbehaviour.second.Overflows config trusted

section

variable [Signing] {config : Config} {trusted : Snapshot} {header : Header}

/-- A header is turned down for a reason that can be reported, unless it overflows. -/
theorem verifyHeader_refuses :
    Outcome.FailsWith
      (Outcome.OrEscapes Failure.IsRejection .heightOverflow (header.Overflows config trusted))
      (verifyHeader config trusted header) := by
  rw [verifyHeader]
  split
  · next above =>
    refine .bind Outcome.orReject_isRejection.orEscapes fun selection selected => ?_
    refine .bind Outcome.orReject_isRejection.orEscapes fun _ withinLimit => ?_
    split
    · refine .bind Outcome.orReject_isRejection.orEscapes fun stake _ => ?_
      refine .guard (Or.inl ⟨_, rfl⟩) ?_
      exact .bind Outcome.orReject_isRejection.orEscapes fun _ _ => .ok _
    · next unsigned =>
      have active : header.ActiveRoster config.limits.maxValidators trusted selection :=
        Header.activeRoster_iff.2
          ⟨Outcome.orReject_eq_ok_iff.1 selected, Outcome.orReject_eq_ok_iff.1 withinLimit⟩
      have greatest := Header.approvalMessage?_eq_none_iff.1
        (Option.eq_none_iff_forall_ne_some.2 unsigned)
      exact .error (Or.inr ⟨rfl, above, ⟨selection, active⟩, greatest⟩)
  · exact Outcome.reject_isRejection.orEscapes

theorem verifyHeader_of_overflows (overflows : header.Overflows config trusted) :
    verifyHeader config trusted header = .error .heightOverflow := by
  rcases overflows.active with ⟨selection, active⟩
  rcases Header.activeRoster_iff.1 active with ⟨selected, withinLimit⟩
  have unsigned := Header.approvalMessage?_eq_none_iff.2 overflows.greatest
  rw [verifyHeader, if_pos overflows.above,
    Outcome.bind_of_ok (Outcome.orReject_eq_ok_iff.2 selected),
    Outcome.bind_of_ok (Outcome.orReject_eq_ok_iff.2 withinLimit), unsigned]
  rfl

end

theorem findConflict_error {first second : Header} {rejection : Rejection}
    (failed : findConflict first second = .error rejection) :
    rejection.report.reason = .misbehaviourNotProven := by
  rw [findConflict] at failed
  split at failed
  · split at failed
    · cases failed
    · split at failed
      · cases failed
      · cases failed
        rfl
  · generalize (if second.height < first.height then (second, first) else (first, second)) =
      ordered at failed
    rcases ordered with ⟨low, high⟩
    simp only at failed
    split at failed
    · cases failed
      rfl
    · cases failed

section

variable [Signing] {config : Config} {trusted : Snapshot} {misbehaviour : Misbehaviour}

/-- A header of misbehaviour that is not final is turned down as such. -/
theorem verifyPlace_refuses {place : Place} {header : Header} :
    Outcome.FailsWith
      (Outcome.OrEscapes Failure.IsNotProven .heightOverflow (header.Overflows config trusted))
      (verifyPlace config trusted place header) := by
  intro failure failed
  rw [verifyPlace] at failed
  split at failed
  · cases failed
    exact Or.inl ⟨_, rfl, rfl⟩
  · next otherwise =>
    rcases verifyHeader_refuses failure failed with ⟨rejection, rfl⟩ | overflow
    · exact absurd failed (otherwise rejection)
    · exact Or.inr overflow

theorem verifyPlace_of_overflows {place : Place} {header : Header}
    (overflows : header.Overflows config trusted) :
    verifyPlace config trusted place header = .error .heightOverflow := by
  rw [verifyPlace, verifyHeader_of_overflows overflows]

/-- What is submitted as misbehaviour is turned down as not proven, unless it overflows. -/
theorem detect_refuses :
    Outcome.FailsWith
      (Outcome.OrEscapes Failure.IsNotProven .heightOverflow
        (misbehaviour.Overflows config trusted))
      (detect config trusted misbehaviour) := by
  rw [detect]
  split
  · refine .bind (.error (Or.inl ⟨_, rfl, rfl⟩)) fun _ passed => ?_
    exact absurd passed Outcome.reject_ne_ok
  · next differ =>
    have firstRefuses := (@verifyPlace_refuses _ config trusted .first misbehaviour.first).weaken
      (fun _ => id) fun first => Misbehaviour.Overflows.mk differ (Or.inl first)
    refine .bind firstRefuses fun verified accepted => ?_
    have secondRefuses := (@verifyPlace_refuses _ config trusted .second misbehaviour.second).weaken
      (fun _ => id) fun second => Misbehaviour.Overflows.mk differ
        (Or.inr ⟨⟨verified, verifyPlace_eq_ok_iff.1 accepted⟩, second⟩)
    refine .bind secondRefuses fun _ _ => ?_
    refine .bind (.orReject fun rejection failed => ?_) fun _ _ => .ok _
    exact Or.inl ⟨rejection, rfl, findConflict_error failed⟩

theorem detect_of_overflows (overflows : misbehaviour.Overflows config trusted) :
    detect config trusted misbehaviour = .error .heightOverflow := by
  rw [detect, if_neg overflows.differ]
  rcases overflows.overflows with first | ⟨⟨verified, accepted⟩, second⟩
  · rw [verifyPlace_of_overflows first]
    rfl
  · rw [verifyPlace_eq_ok_iff.2 accepted, verifyPlace_of_overflows second]
    rfl

end

end Finality
