import Finality.Proofs.Verification.Conditions
import Finality.Signing.Standard

/-!
# Quorums

An accepted header carries valid approvals of more than two thirds of the stake of its
roster (`AcceptedUnder.quorum`, `AcceptedUnder.approved`). So the approvals of two headers
that were accepted under one roster overlap in more than a third of its stake, whoever
submitted them and whatever they were verified against (`quorums_intersect`). In the same
way they overlap with every group of validators that holds a third of it
(`AcceptedUnder.exists_approves`).
-/

namespace Finality

open Finset

/-! ## Approvals of an accepted header -/

/-- An approval of a header is present at a place of a roster, and it verifies under the key
there for the message that the header itself has signed. -/
def Roster.Approves [Signing] (roster : Roster) (position : roster.Position) (header : Header)
    (message : Bytes) : Prop :=
  header.approvalMessage? = some message ∧
    ∃ signature, approvalAt? header.approvals position = some signature ∧
      signature.check message (roster.validatorAt position).key = .ok ()

/-- A header is accepted against a trusted snapshot, and a roster is the one that must have
signed it. -/
structure AcceptedUnder [Signing] (roster : Roster) (config : Config) (trusted : Snapshot)
    (header : Header) : Prop where
  selected : ∃ rollover,
    selectRoster trusted header (some config.limits.maxValidators) = .ok ⟨roster, rollover⟩
  accepted : ∃ verified, verifyHeader config trusted header = .ok verified

namespace AcceptedUnder

variable [Signing]

/-- Every accepted header is accepted under the roster that was selected for it. -/
theorem of_accepted {config : Config} {trusted : Snapshot} {header : Header}
    (accepted : ∃ verified, verifyHeader config trusted header = .ok verified) :
    ∃ selection,
      selectRoster trusted header (some config.limits.maxValidators) = .ok selection ∧
        AcceptedUnder selection.roster config trusted header := by
  rcases accepted with ⟨verified, passed⟩
  rcases verifyHeader_eq_ok_iff.1 passed with ⟨selection, message, stake, checks, -⟩
  exact ⟨selection, checks.selected, ⟨selection.rollover, checks.selected⟩, verified, passed⟩

variable {roster : Roster} {config : Config} {trusted : Snapshot} {header : Header}

/-- An accepted header is final, with the roster named. -/
theorem final (under : AcceptedUnder roster config trusted header) :
    ∃ rollover, header.Final config trusted ⟨roster, rollover⟩ := by
  rcases under.selected with ⟨rollover, selected⟩
  rcases under.accepted with ⟨verified, accepted⟩
  rcases verifyHeader_eq_ok_iff.1 accepted with ⟨selection, message, stake, checks, -⟩
  have same : selection = ⟨roster, rollover⟩ := by
    have equal := checks.selected.symm.trans selected
    exact Except.ok.inj equal
  subst same
  exact ⟨rollover, (headerChecks_iff_final.1 checks).1⟩

/-- The approvals of an accepted header stand for more than two thirds of the stake. -/
theorem quorum (under : AcceptedUnder roster config trusted header) :
    2 * roster.total < 3 * roster.stakeOf (roster.signers header.approvals) := by
  rcases under.final with ⟨rollover, final⟩
  exact final.supermajority

/-- Every present approval of an accepted header is one of a validator of the roster. -/
theorem approved (under : AcceptedUnder roster config trusted header) :
    ∃ message, ∀ position ∈ roster.signers header.approvals,
      roster.Approves position header message := by
  rcases under.final with ⟨rollover, final⟩
  refine ⟨header.signedString, ?_⟩
  intro position signs
  rcases Roster.mem_signers.1 signs with ⟨signature, present⟩
  exact ⟨Header.approvalMessage?_eq_some_iff.2 ⟨final.approvable, rfl⟩, signature, present,
    final.approved position signature present⟩

/-- A third of the stake includes a validator that approves an accepted header. -/
theorem exists_approves (under : AcceptedUnder roster config trusted header)
    {positions : Finset roster.Position} (third : roster.total ≤ 3 * roster.stakeOf positions) :
    ∃ position ∈ positions, ∃ message, roster.Approves position header message := by
  have quorum := under.quorum
  have overlap := Roster.stakeOf_add_le_inter (roster.signers header.approvals) positions
  have staked : 0 < roster.stakeOf (roster.signers header.approvals ∩ positions) := by omega
  rcases exists_ne_zero_of_sum_ne_zero (Nat.ne_of_gt staked) with ⟨position, member, -⟩
  rcases mem_inter.1 member with ⟨signs, inside⟩
  rcases under.approved with ⟨message, approved⟩
  exact ⟨position, inside, message, approved position signs⟩

end AcceptedUnder

/-! ## Two accepted headers -/

/-- The places at which two headers that are accepted under one roster both carry an approval
hold more than a third of its stake, and at each of them both approvals verify under the
one key there, each for the message of its own header. -/
theorem quorums_intersect [Signing] {roster : Roster} {leftConfig rightConfig : Config}
    {leftTrusted rightTrusted : Snapshot} {left right : Header}
    (leftUnder : AcceptedUnder roster leftConfig leftTrusted left)
    (rightUnder : AcceptedUnder roster rightConfig rightTrusted right) :
    roster.total <
        3 * roster.stakeOf (roster.signers left.approvals ∩ roster.signers right.approvals) ∧
      ∀ position ∈ roster.signers left.approvals ∩ roster.signers right.approvals,
        (∃ message, roster.Approves position left message) ∧
          ∃ message, roster.Approves position right message := by
  constructor
  · have leftQuorum := leftUnder.quorum
    have rightQuorum := rightUnder.quorum
    have overlap := Roster.stakeOf_add_le_inter (roster.signers left.approvals)
      (roster.signers right.approvals)
    omega
  · intro position member
    rcases mem_inter.1 member with ⟨leftSigns, rightSigns⟩
    rcases leftUnder.approved with ⟨leftMessage, leftApproved⟩
    rcases rightUnder.approved with ⟨rightMessage, rightApproved⟩
    exact ⟨⟨leftMessage, leftApproved position leftSigns⟩,
      ⟨rightMessage, rightApproved position rightSigns⟩⟩

/-! ## Four validators

The key of each validator is written from the neutral point of its curve, so one signature
stands for every message under it. -/

attribute [local instance] Signing.standard

namespace Sample

/-- The key that is written from the neutral point. -/
def key : PublicKey := ⟨.ed25519, 1 :: List.replicate 31 0, rfl⟩

/-- The signature that this key has for every message. -/
def signature : Signature := ⟨.ed25519, 1 :: List.replicate 63 0, rfl⟩

/-- A validator with one unit of stake. -/
def validator (account : String) (account_ne : account ≠ "") : Validator :=
  ⟨account, key, ⟨1, by decide⟩, account_ne⟩

/-- Four validators. -/
def roster : Roster where
  validators := [validator "a" (by decide), validator "b" (by decide),
    validator "c" (by decide), validator "d" (by decide)]
  staked := by decide
  writable := by decide

/-- A state of the one epoch that is used here. -/
def consensusState : ConsensusState := ⟨0, .zero, .zero, .zero, .zero, .zero⟩

/-- What headers are verified against. -/
def trusted : Snapshot where
  clientState := ⟨⟨0, 0⟩, 0, 1, 10, none, by decide⟩
  height := ⟨0, 0⟩
  consensusState := consensusState
  roster := roster

/-- The header of a block in the trusted epoch. Its time is its height. -/
def header (height : UInt64) (approvals : List (Option Signature)) : Header where
  previousHash := .zero
  nextInnerHash := .zero
  inner := ⟨height, .zero, .zero, .zero, .zero, height, .zero, .zero⟩
  restHash := .zero
  validators := none
  approvals := approvals

/-- The first block, which the last validator has not signed. -/
def first : Header := header 1 [some signature, some signature, some signature]

/-- The second block, which the first validator has not signed. -/
def second : Header := header 2 [none, some signature, some signature, some signature]

theorem first_accepted : AcceptedUnder roster .standard trusted first where
  selected := ⟨false, rfl⟩
  accepted := Outcome.exists_of_isOk (by decide +kernel)

theorem second_accepted : AcceptedUnder roster .standard trusted second where
  selected := ⟨false, rfl⟩
  accepted := Outcome.exists_of_isOk (by decide +kernel)

end Sample

/-- Two validators of four have signed both blocks. -/
theorem quorums_intersect_sample :
    AcceptedUnder Sample.roster .standard Sample.trusted Sample.first ∧
      AcceptedUnder Sample.roster .standard Sample.trusted Sample.second ∧
      Sample.roster.total < 3 * Sample.roster.stakeOf
        (Sample.roster.signers Sample.first.approvals ∩
          Sample.roster.signers Sample.second.approvals) :=
  ⟨Sample.first_accepted, Sample.second_accepted,
    (quorums_intersect Sample.first_accepted Sample.second_accepted).1⟩

end Finality
