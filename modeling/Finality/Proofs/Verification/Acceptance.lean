import Finality.Proofs.Outcome
import Finality.Verification.Misbehaviour

/-!
# When a header is accepted

`HeaderChecks` lists what is checked of a header, in the order of the checks.
`verifyHeader_eq_ok_iff` says that a header is accepted exactly if it passes all of them,
and what is then established about it. `detect_eq_ok_iff` does the same for misbehaviour.
Proofs about accepted headers start from here and do not open `verifyHeader`.
-/

namespace Finality

/-- What a header has to pass against a trusted snapshot. The roster that must have
signed it, the message that approvals sign and the stake behind them are found on the
way. -/
structure HeaderChecks [Signing] (config : Config) (trusted : Snapshot) (header : Header)
    (selection : Selection) (message : Bytes) (stake : Nat) : Prop where
  above : trusted.height < header.height
  selected : selectRoster trusted header (some config.limits.maxValidators) = .ok selection
  withinLimit :
    checkLimit .validators config.limits.maxValidators selection.roster.size = .ok ()
  signs : header.approvalMessage? = some message
  tallied :
    tally selection.roster header.approvals message config.verifier.signatureWorkers =
      .ok stake
  supermajority : hasSupermajority stake selection.roster.total = true
  timely : checkTimestamp trusted.clientState trusted.consensusState header = .ok ()

/-- What an accepted header establishes. -/
def Header.established (header : Header) (selection : Selection) (stake : Nat) :
    VerifiedHeader where
  height := header.height
  consensusState := header.consensusState
  verified := stake
  total := selection.roster.total
  newEpoch := if selection.rollover then some (header.inner.epochId, selection.roster) else none

section

variable {config : Config} {trusted : Snapshot} {header : Header}

/-- A header is accepted exactly if it passes all checks. -/
theorem verifyHeader_eq_ok_iff [Signing] {verified : VerifiedHeader} :
    verifyHeader config trusted header = .ok verified ↔
      ∃ selection message stake,
        HeaderChecks config trusted header selection message stake ∧
          verified = header.established selection stake := by
  constructor
  · intro accepted
    rw [verifyHeader] at accepted
    split at accepted
    · next above =>
      simp only [Outcome.bind_eq_ok_iff, Outcome.orReject_eq_ok_iff] at accepted
      rcases accepted with ⟨selection, selected, ⟨⟩, withinLimit, accepted⟩
      split at accepted
      · next message signs =>
        simp only [Outcome.bind_eq_ok_iff, Outcome.orReject_eq_ok_iff] at accepted
        rcases accepted with ⟨stake, tallied, accepted⟩
        split at accepted
        · simp only [Outcome.bind_eq_ok_iff, Outcome.reject_ne_ok, false_and,
            exists_false] at accepted
        · next supermajority =>
          simp only [Outcome.bind_eq_ok_iff, Outcome.orReject_eq_ok_iff] at accepted
          rcases accepted with ⟨⟨⟩, timely, established⟩
          cases established
          exact ⟨selection, message, stake, ⟨above, selected, withinLimit, signs, tallied,
            by simpa using supermajority, timely⟩, rfl⟩
      · cases accepted
    · cases accepted
  · intro given
    rcases given with ⟨selection, message, stake, checks, rfl⟩
    rw [verifyHeader, if_pos checks.above]
    simp only [Outcome.bind_eq_ok_iff, Outcome.orReject_eq_ok_iff]
    refine ⟨selection, checks.selected, (), checks.withinLimit, ?_⟩
    rw [checks.signs]
    simp only [Outcome.bind_eq_ok_iff, Outcome.orReject_eq_ok_iff]
    refine ⟨stake, checks.tallied, ?_⟩
    simp only [checks.supermajority, Bool.not_true, Bool.false_eq_true, ↓reduceIte,
      Outcome.bind_eq_ok_iff, Outcome.orReject_eq_ok_iff]
    exact ⟨(), checks.timely, rfl⟩

theorem height_lt_of_verifyHeader [Signing] {verified : VerifiedHeader}
    (passed : verifyHeader config trusted header = .ok verified) :
    trusted.height < verified.height := by
  rcases verifyHeader_eq_ok_iff.1 passed with ⟨selection, message, stake, checks, rfl⟩
  exact checks.above

/-- A header that is not above the trusted height is turned down for that, whatever else is
wrong with it. -/
theorem verifyHeader_of_not_above [Signing] (below : ¬trusted.height < header.height) :
    verifyHeader config trusted header =
      .error (.rejected (.heightNotAbove trusted.height header.height)) := by
  rw [verifyHeader, if_neg below]
  rfl

/-- The time of a header lies between the trusted time and the clock drift after it. -/
theorem checkTimestamp_eq_ok_iff {client : ClientState} {state : ConsensusState} :
    checkTimestamp client state header = .ok () ↔
      state.timestamp ≤ header.inner.timestamp ∧
        header.inner.timestamp.toNat ≤ state.timestamp.toNat + client.maxClockDrift.toNat := by
  rw [checkTimestamp, ← UInt64.not_lt, ← Nat.not_lt]
  by_cases early : header.inner.timestamp < state.timestamp
  · simp [early]
  · rw [if_neg early]
    by_cases late :
        state.timestamp.toNat + client.maxClockDrift.toNat < header.inner.timestamp.toNat
    · simp [late]
    · simp [early, late]

/-- Of the scalars of a client, only the clock drift takes part in the verification. -/
theorem verifyHeader_congr [Signing] {next : ClientState}
    (sameDrift : next.maxClockDrift = trusted.clientState.maxClockDrift) :
    verifyHeader config { trusted with clientState := next } header =
      verifyHeader config trusted header := by
  simp only [verifyHeader, selectRoster, checkTimestamp, sameDrift]

theorem passesLimit_eq_none_iff {limit : Int} {got : Nat} :
    passesLimit (some limit) got = none ↔ (got : Int) ≤ limit := by
  simp [passesLimit]

theorem checkLimit_eq_ok_iff {resource : Resource} {limit : Int} {got : Nat} :
    checkLimit resource limit got = .ok () ↔ (got : Int) ≤ limit := by
  rw [checkLimit, ← Int.not_lt]
  by_cases exceeded : limit < got
  · simp [exceeded]
  · simp [exceeded]

/-- An epoch is opened with the validators that the header carries, if they make a roster
within the limit that has the commitment. -/
theorem openEpoch_eq_ok_iff {state : ConsensusState} {limit : Option Int} {roster : Roster} :
    openEpoch state header limit = .ok roster ↔
      header.validators = some roster.validators ∧ passesLimit limit roster.size = none ∧
        roster.commitment = state.nextRosterHash := by
  constructor
  · intro opened
    rw [openEpoch] at opened
    split at opened
    · cases opened
    · next validators carried =>
      split at opened
      · cases opened
      · next withinLimit =>
        split at opened
        · cases opened
        · next other made =>
          split at opened
          · next committed =>
            cases opened
            have sameValidators := Roster.ofValidators_eq_ok_iff.1 made
            rw [Roster.size, sameValidators]
            exact ⟨carried, withinLimit, committed⟩
          · cases opened
  · intro given
    rcases given with ⟨carried, withinLimit, committed⟩
    rw [Roster.size] at withinLimit
    have made : Roster.ofValidators roster.validators = .ok roster :=
      Roster.ofValidators_eq_ok_iff.2 rfl
    simp only [openEpoch, carried, withinLimit, made, committed, ↓reduceIte]

/-- The roster that a header brings is the one that was committed to. -/
theorem commitment_of_openEpoch {state : ConsensusState} {limit : Option Int} {roster : Roster}
    (opened : openEpoch state header limit = .ok roster) :
    roster.commitment = state.nextRosterHash := by
  rcases openEpoch_eq_ok_iff.1 opened with ⟨-, -, committed⟩
  exact committed

/-- The roster of a header is the trusted one within the trusted epoch, and the one that the
header carries if it opens the epoch after. -/
theorem selectRoster_eq_ok_iff {limit : Option Int} {selection : Selection} :
    selectRoster trusted header limit = .ok selection ↔
      (header.inner.epochId = trusted.consensusState.epochId ∧
        selection = ⟨trusted.roster, false⟩) ∨
      (header.inner.epochId ≠ trusted.consensusState.epochId ∧
        header.inner.epochId = trusted.consensusState.nextEpochId ∧
        ∃ roster, openEpoch trusted.consensusState header limit = .ok roster ∧
          selection = ⟨roster, true⟩) := by
  rw [selectRoster]
  by_cases sameEpoch : header.inner.epochId = trusted.consensusState.epochId
  · simp [sameEpoch, eq_comm]
  · rw [if_neg sameEpoch]
    by_cases nextEpoch : header.inner.epochId = trusted.consensusState.nextEpochId
    · rw [if_pos nextEpoch]
      cases opened : openEpoch trusted.consensusState header limit with
      | error rejection => simp [Except.map, sameEpoch]
      | ok roster =>
          constructor
          · intro selected
            cases selected
            exact Or.inr ⟨sameEpoch, nextEpoch, roster, rfl, rfl⟩
          · intro given
            rcases given with ⟨equal, -⟩ | ⟨-, -, other, found, rfl⟩
            · exact absurd equal sameEpoch
            · cases found
              rfl
    · simp [sameEpoch, nextEpoch]

end

variable [Signing]

section

variable {config : Config} {trusted : Snapshot}

theorem verifyPlace_eq_ok_iff {place : Place} {header : Header} {verified : VerifiedHeader} :
    verifyPlace config trusted place header = .ok verified ↔
      verifyHeader config trusted header = .ok verified := by
  rw [verifyPlace]
  cases verifyHeader config trusted header with
  | ok other => rfl
  | error failure => cases failure <;> simp [reject]

/-- Evidence is given exactly for two different headers that are both accepted and
conflict. -/
theorem detect_eq_ok_iff {misbehaviour : Misbehaviour} {evidence : Evidence} :
    detect config trusted misbehaviour = .ok evidence ↔
      misbehaviour.first ≠ misbehaviour.second ∧
        (∃ verified, verifyHeader config trusted misbehaviour.first = .ok verified) ∧
        (∃ verified, verifyHeader config trusted misbehaviour.second = .ok verified) ∧
        ∃ conflict, findConflict misbehaviour.first misbehaviour.second = .ok conflict ∧
          evidence = ⟨misbehaviour.first.height.lower misbehaviour.second.height, conflict⟩ := by
  rw [detect]
  split
  · next same =>
    simp only [Outcome.bind_eq_ok_iff, Outcome.reject_ne_ok, false_and, exists_false, same,
      ne_eq, not_true_eq_false]
  · next differs =>
    simp only [Outcome.bind_eq_ok_iff, Outcome.orReject_eq_ok_iff, verifyPlace_eq_ok_iff,
      ne_eq, differs, not_false_eq_true, true_and]
    constructor
    · intro given
      rcases given with ⟨first, firstAccepted, second, secondAccepted, conflict, found, ended⟩
      cases ended
      exact ⟨⟨first, firstAccepted⟩, ⟨second, secondAccepted⟩, conflict, found, rfl⟩
    · intro given
      rcases given with ⟨⟨first, firstAccepted⟩, ⟨second, secondAccepted⟩, conflict, found, rfl⟩
      exact ⟨first, firstAccepted, second, secondAccepted, conflict, found, rfl⟩

end

end Finality
