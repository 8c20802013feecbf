import Finality.Proofs.Verification.Acceptance
import Finality.Proofs.Verification.Stake

/-!
# What is final

`Header.Final` says in terms of heights, epochs, stake and time when a header is a valid
finalization for a trusted snapshot, without reference to the order in which this is
checked. `verifyHeader_eq_ok_iff_final` says that these headers are the ones that are
accepted, for rosters and approvals of every length and for any number of workers.
-/

namespace Finality

/-- The string that approvals of a header sign, whether or not its height leaves room for
it. -/
def Header.signedString (header : Header) : Bytes :=
  0 :: (header.nextBlockHash.bytes ++ leBytes 8 (header.inner.height.toNat + 2))

/-- A header has a message for its approvals exactly if two more than its height fits eight
bytes. -/
theorem Header.approvalMessage?_eq_some_iff {header : Header} {message : Bytes} :
    header.approvalMessage? = some message ↔
      header.inner.height.toNat + 2 < 2 ^ 64 ∧ message = header.signedString := by
  rw [Header.approvalMessage?, Header.approvalHeight?, Header.signedString]
  have room : capacity 8 = 2 ^ 64 := rfl
  by_cases fits : header.inner.height.toNat + 2 < 2 ^ 64
  · simp only [room, fits, ↓reduceIte, Option.map_some, Option.some.injEq, true_and]
    exact eq_comm
  · simp only [room, fits, ↓reduceIte, Option.map_none, reduceCtorEq, false_and]

theorem Header.approvalMessage?_eq_none_iff {header : Header} :
    header.approvalMessage? = none ↔ 2 ^ 64 ≤ header.inner.height.toNat + 2 := by
  rw [Option.eq_none_iff_forall_ne_some, ← Nat.not_lt]
  simp only [ne_eq, Header.approvalMessage?_eq_some_iff, not_and]
  constructor
  · intro unsigned fits
    exact unsigned _ fits rfl
  · intro overflows message fits
    exact absurd fits overflows

/-- The roster that must have signed a header, with at most `limit` validators. Only a list of
validators that can be written has a commitment. -/
inductive Header.ActiveRoster (limit : Int) (trusted : Snapshot) (header : Header) :
    Selection → Prop
  | sameEpoch (same : header.inner.epochId = trusted.consensusState.epochId)
      (withinLimit : (trusted.roster.size : Int) ≤ limit) :
      header.ActiveRoster limit trusted ⟨trusted.roster, false⟩
  | nextEpoch {validators : List Validator}
      (other : header.inner.epochId ≠ trusted.consensusState.epochId)
      (next : header.inner.epochId = trusted.consensusState.nextEpochId)
      (carried : header.validators = some validators) (nonempty : validators ≠ [])
      (withinLimit : (validators.length : Int) ≤ limit)
      (staked : 0 < totalStake validators) (writable : oversize? validators = none)
      (committed : commitment validators = trusted.consensusState.nextRosterHash) :
      header.ActiveRoster limit trusted ⟨⟨validators, staked, writable⟩, true⟩

/-- A header is a valid finalization for a trusted snapshot under an active roster. -/
structure Header.Final [Signing] (config : Config) (trusted : Snapshot) (header : Header)
    (selection : Selection) : Prop where
  above : trusted.height < .ofBlock header.inner.height
  active : header.ActiveRoster config.limits.maxValidators trusted selection
  approvable : header.inner.height.toNat + 2 < 2 ^ 64
  seated : header.approvals.length ≤ selection.roster.size
  approved : ∀ (position : selection.roster.Position) (signature : Signature),
    approvalAt? header.approvals position = some signature →
      signature.check header.signedString (selection.roster.validatorAt position).key = .ok ()
  supermajority : 2 * selection.roster.total <
    3 * selection.roster.stakeOf (selection.roster.signers header.approvals)
  notBefore : trusted.consensusState.timestamp ≤ header.inner.timestamp
  notAfter : header.inner.timestamp.toNat ≤
    trusted.consensusState.timestamp.toNat + trusted.clientState.maxClockDrift.toNat

section

variable {config : Config} {trusted : Snapshot} {header : Header} {selection : Selection}

/-- A roster is active exactly if it is selected and keeps the limit. -/
theorem Header.activeRoster_iff {limit : Int} :
    header.ActiveRoster limit trusted selection ↔
      selectRoster trusted header (some limit) = .ok selection ∧
        checkLimit .validators limit selection.roster.size = .ok () := by
  rw [selectRoster_eq_ok_iff, checkLimit_eq_ok_iff]
  constructor
  · intro active
    cases active with
    | sameEpoch same withinLimit => exact ⟨Or.inl ⟨same, rfl⟩, withinLimit⟩
    | nextEpoch other next carried nonempty withinLimit staked writable committed =>
        have opened : openEpoch trusted.consensusState header (some limit) =
            .ok ⟨_, staked, writable⟩ :=
          openEpoch_eq_ok_iff.2 ⟨carried, passesLimit_eq_none_iff.2 withinLimit, committed⟩
        exact ⟨Or.inr ⟨other, next, _, opened, rfl⟩, withinLimit⟩
  · intro given
    rcases given with ⟨⟨same, rfl⟩ | ⟨other, next, roster, opened, rfl⟩, withinLimit⟩
    · exact .sameEpoch same withinLimit
    · rcases openEpoch_eq_ok_iff.1 opened with ⟨carried, -, committed⟩
      exact .nextEpoch other next carried roster.validators_ne_nil withinLimit roster.staked
        roster.writable committed

/-- The stake behind a header is enough exactly if it is more than two thirds. -/
theorem hasSupermajority_iff {verified total : Nat} :
    hasSupermajority verified total = true ↔ 2 * total < 3 * verified := by
  rw [hasSupermajority, decide_eq_true_iff]
  omega

variable [Signing]

/-- A header passes all checks exactly if it is final, and then the stake that is counted is
the one of the places at which it has approvals. -/
theorem headerChecks_iff_final {message : Bytes} {stake : Nat} :
    HeaderChecks config trusted header selection message stake ↔
      header.Final config trusted selection ∧ message = header.signedString ∧
        stake = selection.roster.stakeOf (selection.roster.signers header.approvals) := by
  constructor
  · intro checks
    rcases Header.approvalMessage?_eq_some_iff.1 checks.signs with ⟨approvable, rfl⟩
    rcases tally_eq_ok_iff.1 checks.tallied with ⟨seated, approved, rfl⟩
    rcases checkTimestamp_eq_ok_iff.1 checks.timely with ⟨notBefore, notAfter⟩
    have active := Header.activeRoster_iff.2 ⟨checks.selected, checks.withinLimit⟩
    exact ⟨⟨checks.above, active, approvable, seated, approved,
      hasSupermajority_iff.1 checks.supermajority, notBefore, notAfter⟩, rfl, rfl⟩
  · intro given
    rcases given with ⟨final, rfl, rfl⟩
    rcases Header.activeRoster_iff.1 final.active with ⟨selected, withinLimit⟩
    exact {
      above := final.above
      selected := selected
      withinLimit := withinLimit
      signs := Header.approvalMessage?_eq_some_iff.2 ⟨final.approvable, rfl⟩
      tallied := tally_eq_ok_iff.2 ⟨final.seated, final.approved, rfl⟩
      supermajority := hasSupermajority_iff.2 final.supermajority
      timely := checkTimestamp_eq_ok_iff.2 ⟨final.notBefore, final.notAfter⟩ }

/-- A header is accepted exactly if it is final under some roster. Then its own height and
state are established, the stake of its approvals and of the roster, and the roster itself
if it opens an epoch. -/
theorem verifyHeader_eq_ok_iff_final {verified : VerifiedHeader} :
    verifyHeader config trusted header = .ok verified ↔
      ∃ selection, header.Final config trusted selection ∧
        verified = {
          height := .ofBlock header.inner.height
          consensusState := header.consensusState
          verified := selection.roster.stakeOf (selection.roster.signers header.approvals)
          total := selection.roster.total
          newEpoch :=
            if selection.rollover then some (header.inner.epochId, selection.roster)
            else none } := by
  rw [verifyHeader_eq_ok_iff]
  constructor
  · intro given
    rcases given with ⟨selection, message, stake, checks, rfl⟩
    rcases headerChecks_iff_final.1 checks with ⟨final, -, rfl⟩
    exact ⟨selection, final, rfl⟩
  · intro given
    rcases given with ⟨selection, final, rfl⟩
    exact ⟨selection, header.signedString, _, headerChecks_iff_final.2 ⟨final, rfl, rfl⟩, rfl⟩

end

end Finality
