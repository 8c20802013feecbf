import Finality.Proofs.Verification.Acceptance
import Finality.Proofs.Verification.Stake

/-!
# Workers do not matter

Ballots are shared out among workers, and their verdicts come back in another order. The stake
behind them is a sum, and no two ballots have one position, so the faulty one at the lowest
position is the same in every order (`Tally.lowestFault?_perm`). So counting stake has one
outcome, whether it succeeds or fails, for every number of workers (`tally_workers`), and with
it every verification that counts stake (`verifyHeader_workers`).
-/

namespace Finality

namespace Tally

/-- Of faulty ballots at different positions, it does not matter which is looked at first. -/
theorem lower_left_comm {first second lowest : Option (Ballot × SignatureFault)}
    (apart : ∀ left ∈ first, ∀ right ∈ second, left.1.index ≠ right.1.index) :
    lower first (lower second lowest) = lower second (lower first lowest) := by
  cases first with
  | none => rfl
  | some first =>
      cases second with
      | none => rfl
      | some second =>
          have differ := apart first rfl second rfl
          cases lowest with
          | none => grind [lower]
          | some lowest => grind [lower]

/-- Verdicts in another order have the same lowest fault, as long as no two have one position. -/
theorem lowestFault?_perm {left right : List Verdict} (permuted : left.Perm right)
    (distinct : ∀ first ∈ left, ∀ second ∈ left,
      first.ballot.index = second.ballot.index → first = second) :
    lowestFault? left = lowestFault? right := by
  have asFold : ∀ verdicts, lowestFault? verdicts = verdicts.foldr
      (fun verdict lowest =>
        lower (verdict.fault.map fun fault => (verdict.ballot, fault)) lowest) none := by
    intro verdicts
    induction verdicts with
    | nil => rfl
    | cons verdict verdicts ih => rw [lowestFault?, ih, List.foldr_cons]
  rw [asFold, asFold]
  apply permuted.foldr_eq'
  intro first firstMember second secondMember lowest
  by_cases same : first.ballot.index = second.ballot.index
  · rw [distinct first firstMember second secondMember same]
  · apply lower_left_comm
    intro left leftFault right rightFault
    rcases Option.map_eq_some_iff.1 leftFault with ⟨_, _, rfl⟩
    rcases Option.map_eq_some_iff.1 rightFault with ⟨_, _, rfl⟩
    exact Ne.symm same

/-- The position of a ballot determines it. -/
theorem eq_of_index_eq {start : Nat} {validators : List Validator}
    {approvals : List (Option Signature)} {first second : Ballot}
    (firstMember : first ∈ ballots start validators approvals)
    (secondMember : second ∈ ballots start validators approvals)
    (sameIndex : first.index = second.index) : first = second := by
  rcases mem_ballots_iff.1 firstMember with ⟨place, index, validatorAt, approvalAt⟩
  rcases mem_ballots_iff.1 secondMember with ⟨other, otherIndex, otherValidator, otherApproval⟩
  have samePlace : place = other := by omega
  subst samePlace
  rw [validatorAt] at otherValidator
  rw [approvalAt] at otherApproval
  cases first
  cases second
  cases sameIndex
  cases otherValidator
  cases otherApproval
  rfl

theorem settle_perm {left right : List Verdict} (permuted : left.Perm right)
    (distinct : ∀ first ∈ left, ∀ second ∈ left,
      first.ballot.index = second.ballot.index → first = second) :
    settle left = settle right := by
  have sameStake : stakeOf left = stakeOf right := totalStake_perm (permuted.map _)
  rw [settle, settle, lowestFault?_perm permuted distinct, sameStake]

/-- It does not matter in which order the ballots are judged. -/
theorem settle_judged_perm [Signing] {message : Bytes} {start : Nat} {validators : List Validator}
    {approvals : List (Option Signature)} {verdicts : List Verdict}
    (permuted : verdicts.Perm ((ballots start validators approvals).map (Ballot.judge message))) :
    settle verdicts = settle ((ballots start validators approvals).map (Ballot.judge message)) := by
  apply Eq.symm
  apply settle_perm permuted.symm
  intro first firstMember second secondMember sameIndex
  rcases List.mem_map.1 firstMember with ⟨ballot, member, rfl⟩
  rcases List.mem_map.1 secondMember with ⟨other, otherMember, rfl⟩
  rw [judge_ballot, judge_ballot] at sameIndex
  rw [eq_of_index_eq member otherMember sameIndex]

end Tally

variable [Signing]

/-- If every approval has a place in the roster, then counting settles the verdicts on the ballots
as they stand. -/
theorem tally_of_seated {roster : Roster} {approvals : List (Option Signature)} {message : Bytes}
    {workers : Int} (seated : approvals.length ≤ roster.size) :
    tally roster approvals message workers =
      Tally.settle ((Tally.ballots 0 roster.validators approvals).map
        (Tally.Ballot.judge message)) := by
  rw [tally, if_neg (Nat.not_lt.2 seated)]
  exact Tally.settle_judged_perm (Tally.judgeAll_perm workers message _)

/-- Counting stake has the same outcome for any two numbers of workers. -/
theorem tally_workers (roster : Roster) (approvals : List (Option Signature)) (message : Bytes)
    (workers others : Int) :
    tally roster approvals message workers = tally roster approvals message others := by
  by_cases tooMany : roster.size < approvals.length
  · rw [tally, tally, if_pos tooMany, if_pos tooMany]
  · have seated : approvals.length ≤ roster.size := Nat.not_lt.1 tooMany
    rw [tally_of_seated seated, tally_of_seated seated]

/-- A configuration with another number of workers. -/
def Config.withWorkers (config : Config) (workers : Int) : Config :=
  { config with verifier := { config.verifier with signatureWorkers := workers } }

/-- Verifying a header has the same outcome for any number of workers. -/
theorem verifyHeader_workers (config : Config) (trusted : Snapshot) (header : Header)
    (workers : Int) :
    verifyHeader (config.withWorkers workers) trusted header =
      verifyHeader config trusted header := by
  simp only [verifyHeader, Config.withWorkers,
    tally_workers _ _ _ workers config.verifier.signatureWorkers]

end Finality
