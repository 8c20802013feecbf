import Finality.Proofs.Chain.Height
import Finality.Proofs.Verification.Quorum
import Finality.Proofs.Verification.Refusals
import Finality.Proofs.Verification.Workers

/-!
# What is evidence

Two headers are evidence exactly if they differ, both are final, and they conflict
(`Header.Conflicts`). There is one way in which they do (`Header.ConflictsBy`), and it is the
same from either side, so it does not matter which of them is submitted first. A submission
that is no evidence is turned down as not proven. `detect_decides` puts this together, and says
that the number of workers takes no part in it.
-/

namespace Finality

/-! ## Conflicting headers -/

/-- Two headers do not belong to one chain: at one height they have different state roots or
commit to different next rosters, or at different heights the higher is not later. -/
def Header.Conflicts (first second : Header) : Prop :=
  (first.height = second.height ∧
    (first.inner.stateRoot ≠ second.inner.stateRoot ∨
      first.inner.nextRosterHash ≠ second.inner.nextRosterHash)) ∨
  (first.height < second.height ∧ ¬first.inner.timestamp < second.inner.timestamp) ∨
  (second.height < first.height ∧ ¬second.inner.timestamp < first.inner.timestamp)

/-- The way in which two headers conflict. State roots count before next rosters. -/
inductive Header.ConflictsBy (first second : Header) : Conflict → Prop where
  | stateRoots (sameHeight : first.height = second.height)
      (differ : first.inner.stateRoot ≠ second.inner.stateRoot) :
      ConflictsBy first second .stateRoots
  | nextRosters (sameHeight : first.height = second.height)
      (agree : first.inner.stateRoot = second.inner.stateRoot)
      (differ : first.inner.nextRosterHash ≠ second.inner.nextRosterHash) :
      ConflictsBy first second .nextRosters
  | firstBelow (below : first.height < second.height)
      (notLater : ¬first.inner.timestamp < second.inner.timestamp) :
      ConflictsBy first second .timeOrder
  | secondBelow (below : second.height < first.height)
      (notLater : ¬second.inner.timestamp < first.inner.timestamp) :
      ConflictsBy first second .timeOrder

section

variable {first second : Header} {conflict : Conflict}

theorem Header.ConflictsBy.symm (conflicts : first.ConflictsBy second conflict) :
    second.ConflictsBy first conflict := by
  cases conflicts with
  | stateRoots sameHeight differ => exact .stateRoots sameHeight.symm differ.symm
  | nextRosters sameHeight agree differ =>
      exact .nextRosters sameHeight.symm agree.symm differ.symm
  | firstBelow below notLater => exact .secondBelow below notLater
  | secondBelow below notLater => exact .firstBelow below notLater

theorem Header.conflicts_iff :
    first.Conflicts second ↔ ∃ conflict, first.ConflictsBy second conflict := by
  constructor
  · rintro (⟨sameHeight, differ⟩ | ⟨below, notLater⟩ | ⟨below, notLater⟩)
    · by_cases agree : first.inner.stateRoot = second.inner.stateRoot
      · exact ⟨_, .nextRosters sameHeight agree (differ.resolve_left (not_not_intro agree))⟩
      · exact ⟨_, .stateRoots sameHeight agree⟩
    · exact ⟨_, .firstBelow below notLater⟩
    · exact ⟨_, .secondBelow below notLater⟩
  · rintro ⟨conflict, conflicts⟩
    cases conflicts with
    | stateRoots sameHeight differ => exact Or.inl ⟨sameHeight, Or.inl differ⟩
    | nextRosters sameHeight agree differ => exact Or.inl ⟨sameHeight, Or.inr differ⟩
    | firstBelow below notLater => exact Or.inr (Or.inl ⟨below, notLater⟩)
    | secondBelow below notLater => exact Or.inr (Or.inr ⟨below, notLater⟩)

/-- A conflict is found exactly if the headers conflict in this way. -/
theorem findConflict_eq_ok_iff :
    findConflict first second = .ok conflict ↔ first.ConflictsBy second conflict := by
  constructor
  · intro found
    rw [findConflict] at found
    split at found
    · next sameHeight =>
      split at found
      · next differ =>
        cases found
        exact .stateRoots sameHeight differ
      · next agree =>
        split at found
        · next differ =>
          cases found
          exact .nextRosters sameHeight (not_not.1 agree) differ
        · cases found
    · next apart =>
      by_cases swapped : second.height < first.height
      · simp only [swapped, ↓reduceIte] at found
        split at found
        · cases found
        · next notLater =>
          cases found
          exact .secondBelow swapped notLater
      · have below : first.height < second.height := by
          rcases Height.lt_or_eq_or_lt first.height second.height with less | same | greater
          · exact less
          · exact absurd same apart
          · exact absurd greater swapped
        simp only [swapped, ↓reduceIte] at found
        split at found
        · cases found
        · next notLater =>
          cases found
          exact .firstBelow below notLater
  · intro conflicts
    rw [findConflict]
    cases conflicts with
    | stateRoots sameHeight differ => rw [if_pos sameHeight, if_pos differ]
    | nextRosters sameHeight agree differ =>
        rw [if_pos sameHeight, if_neg (not_not_intro agree), if_pos differ]
    | firstBelow below notLater =>
        have apart : first.height ≠ second.height := by
          intro same
          exact Height.lt_irrefl _ (same ▸ below)
        have notAbove := Height.not_lt_of_le (Height.le_of_lt below)
        simp only [apart, notAbove, notLater, ↓reduceIte]
    | secondBelow below notLater =>
        have apart : first.height ≠ second.height := by
          intro same
          exact Height.lt_irrefl _ (same ▸ below)
        simp only [apart, below, notLater, ↓reduceIte]

end

namespace Header.Conflicts

variable {first second : Header}

theorem exists_conflict (conflicts : first.Conflicts second) :
    ∃ conflict, findConflict first second = .ok conflict := by
  rcases Header.conflicts_iff.1 conflicts with ⟨conflict, conflicts⟩
  exact ⟨conflict, findConflict_eq_ok_iff.2 conflicts⟩

theorem symm (conflicts : first.Conflicts second) : second.Conflicts first := by
  rcases Header.conflicts_iff.1 conflicts with ⟨conflict, conflicts⟩
  exact Header.conflicts_iff.2 ⟨conflict, conflicts.symm⟩

theorem ne (conflicts : first.Conflicts second) : first ≠ second := by
  rintro rfl
  rcases conflicts with ⟨-, differ | differ⟩ | ⟨below, -⟩ | ⟨below, -⟩
  · exact differ rfl
  · exact differ rfl
  · exact Height.lt_irrefl _ below
  · exact Height.lt_irrefl _ below

end Header.Conflicts

/-! ## Submissions -/

/-- A submission with its headers the other way round. -/
def Misbehaviour.swapped (misbehaviour : Misbehaviour) : Misbehaviour :=
  { misbehaviour with first := misbehaviour.second, second := misbehaviour.first }

section

variable [Signing] {config : Config} {trusted : Snapshot} {misbehaviour : Misbehaviour}
  {evidence : Evidence}

/-- Evidence is given exactly for two different headers that are accepted and conflict. -/
theorem exists_evidence_iff :
    (∃ evidence, detect config trusted misbehaviour = .ok evidence) ↔
      misbehaviour.first ≠ misbehaviour.second ∧
        (∃ verified, verifyHeader config trusted misbehaviour.first = .ok verified) ∧
        (∃ verified, verifyHeader config trusted misbehaviour.second = .ok verified) ∧
        misbehaviour.first.Conflicts misbehaviour.second := by
  simp only [detect_eq_ok_iff, findConflict_eq_ok_iff]
  constructor
  · rintro ⟨evidence, differ, first, second, conflict, conflicts, -⟩
    exact ⟨differ, first, second, Header.conflicts_iff.2 ⟨conflict, conflicts⟩⟩
  · rintro ⟨differ, first, second, conflicts⟩
    rcases Header.conflicts_iff.1 conflicts with ⟨conflict, conflicts⟩
    exact ⟨_, differ, first, second, conflict, conflicts, rfl⟩

/-- The client is to be frozen at the lower of the two heights, which is above the trusted one. -/
theorem freezeHeight_of_detect (detected : detect config trusted misbehaviour = .ok evidence) :
    IsLeast {misbehaviour.first.height, misbehaviour.second.height} evidence.freezeHeight ∧
      trusted.height < evidence.freezeHeight := by
  obtain ⟨-, ⟨first, firstAccepted⟩, ⟨second, secondAccepted⟩, conflict, -, rfl⟩ :=
    detect_eq_ok_iff.1 detected
  have least := Height.isLeast_lower misbehaviour.first.height misbehaviour.second.height
  refine ⟨least, ?_⟩
  obtain ⟨_, _, _, firstChecks, -⟩ := verifyHeader_eq_ok_iff.1 firstAccepted
  obtain ⟨_, _, _, secondChecks, -⟩ := verifyHeader_eq_ok_iff.1 secondAccepted
  rcases least.1 with isFirst | isSecond
  · rw [isFirst]
    exact firstChecks.above
  · rw [isSecond]
    exact secondChecks.above

/-- Below the two greatest heights, a submission that is no evidence is not proven. -/
theorem detect_isNotProven (firstLow : misbehaviour.first.inner.height.toNat + 2 < 2 ^ 64)
    (secondLow : misbehaviour.second.inner.height.toNat + 2 < 2 ^ 64) :
    Outcome.FailsWith Failure.IsNotProven (detect config trusted misbehaviour) := by
  refine detect_refuses.mono ?_
  rintro failure (notProven | ⟨-, overflows⟩)
  · exact notProven
  · rcases overflows.overflows with first | ⟨-, second⟩
    · exact absurd firstLow (Nat.not_lt.2 first.greatest)
    · exact absurd secondLow (Nat.not_lt.2 second.greatest)

theorem detect_swapped_of_ok (detected : detect config trusted misbehaviour = .ok evidence) :
    detect config trusted misbehaviour.swapped = .ok evidence := by
  obtain ⟨differ, first, second, conflict, found, rfl⟩ := detect_eq_ok_iff.1 detected
  have conflicts := (findConflict_eq_ok_iff.1 found).symm
  refine detect_eq_ok_iff.2
    ⟨differ.symm, second, first, conflict, findConflict_eq_ok_iff.2 conflicts, ?_⟩
  rw [Height.lower_comm]
  rfl

/-- The headers of a submission give the same evidence in either order. -/
theorem detect_swapped_iff :
    detect config trusted misbehaviour.swapped = .ok evidence ↔
      detect config trusted misbehaviour = .ok evidence :=
  ⟨fun detected => detect_swapped_of_ok detected, fun detected => detect_swapped_of_ok detected⟩

/-- The outcome is the same for any number of workers that share the approvals. -/
theorem detect_workers (workers : Int) :
    detect (config.withWorkers workers) trusted misbehaviour =
      detect config trusted misbehaviour := by
  simp only [detect, verifyPlace, verifyHeader_workers]

/-- The outcome is the same if each header has a worker of its own. -/
theorem detectApart_eq_detect :
    detectApart config trusted misbehaviour = detect config trusted misbehaviour := by
  rw [detectApart, detect]
  split
  · rfl
  · cases verifyPlace config trusted .first misbehaviour.first with
    | error failure => rfl
    | ok first =>
        cases verifyPlace config trusted .second misbehaviour.second with
        | error failure => rfl
        | ok second =>
            cases findConflict misbehaviour.first misbehaviour.second <;> rfl

end

/-- Two headers below the two greatest heights are submitted. They are evidence exactly if they
differ, are both accepted and conflict. The client is then to be frozen at the lower of their
heights, which is above the trusted one; otherwise the submission is turned down as not
proven. The order of the headers makes no difference to the evidence, and neither does the
number of workers to the outcome, whether they share the approvals of a header or the
headers. -/
theorem detect_decides [Signing] {config : Config} {trusted : Snapshot}
    {misbehaviour : Misbehaviour}
    (firstLow : misbehaviour.first.inner.height.toNat + 2 < 2 ^ 64)
    (secondLow : misbehaviour.second.inner.height.toNat + 2 < 2 ^ 64) :
    ((∃ evidence, detect config trusted misbehaviour = .ok evidence) ↔
      misbehaviour.first ≠ misbehaviour.second ∧
        (∃ verified, verifyHeader config trusted misbehaviour.first = .ok verified) ∧
        (∃ verified, verifyHeader config trusted misbehaviour.second = .ok verified) ∧
        misbehaviour.first.Conflicts misbehaviour.second) ∧
    (∀ evidence, detect config trusted misbehaviour = .ok evidence →
      IsLeast {misbehaviour.first.height, misbehaviour.second.height} evidence.freezeHeight ∧
        trusted.height < evidence.freezeHeight) ∧
    Outcome.FailsWith Failure.IsNotProven (detect config trusted misbehaviour) ∧
    (∀ evidence, detect config trusted misbehaviour.swapped = .ok evidence ↔
      detect config trusted misbehaviour = .ok evidence) ∧
    (∀ workers, detect (config.withWorkers workers) trusted misbehaviour =
        detect config trusted misbehaviour ∧
      detectApart (config.withWorkers workers) trusted misbehaviour =
        detect config trusted misbehaviour) := by
  refine ⟨exists_evidence_iff, ?_, detect_isNotProven firstLow secondLow, ?_, ?_⟩
  · intro evidence detected
    exact freezeHeight_of_detect detected
  · intro evidence
    exact detect_swapped_iff
  · intro workers
    rw [detectApart_eq_detect]
    exact ⟨detect_workers workers, detect_workers workers⟩

attribute [local instance] Signing.standard

namespace Sample

/-- The first block with another state root. -/
def twin : Header := { first with inner := { first.inner with stateRoot := leafHash [] } }

theorem twin_accepted : ∃ verified, verifyHeader .standard trusted twin = .ok verified :=
  Outcome.exists_of_isOk (by decide +kernel)

theorem first_conflicts_twin : first.Conflicts twin :=
  Or.inl ⟨rfl, Or.inl (by decide +kernel)⟩

end Sample

/-- Two versions of the first block are evidence, in either order and for eight workers. -/
theorem detect_decides_sample :
    ∃ evidence,
      detect .standard Sample.trusted ⟨"c", ⟨0, 0⟩, Sample.first, Sample.twin⟩ = .ok evidence ∧
      detect (Config.standard.withWorkers 8) Sample.trusted
        ⟨"c", ⟨0, 0⟩, Sample.first, Sample.twin⟩ = .ok evidence ∧
      detect .standard Sample.trusted ⟨"c", ⟨0, 0⟩, Sample.twin, Sample.first⟩ = .ok evidence := by
  obtain ⟨decides, -, -, eitherOrder, anyWorkers⟩ :=
    @detect_decides _ .standard Sample.trusted ⟨"c", ⟨0, 0⟩, Sample.first, Sample.twin⟩
      (by decide) (by decide)
  rcases decides.2 ⟨Sample.first_conflicts_twin.ne, Sample.first_accepted.accepted,
    Sample.twin_accepted, Sample.first_conflicts_twin⟩ with ⟨evidence, detected⟩
  exact ⟨evidence, detected, (anyWorkers 8).1.trans detected, (eitherOrder evidence).2 detected⟩

end Finality
