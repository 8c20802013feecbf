import Finality.Proofs.Verification.Workers

/-!
# What counting stake comes to

Counting has one of three outcomes (`Roster.Counts`): there are too many approvals, or a present
approval has a fault and the one at the lowest place is reported, or all present approvals verify
and their stake is added up. No two of them are possible at once (`Roster.Counts.unique`), and the
count always comes to the one that is (`tally_eq_iff_counts`), whoever judges the ballots and in
whichever order. Filling an empty place with an approval that verifies adds the stake there and
changes nothing else (`Roster.Fills.counts`). `tally_countsExactly` puts this together.
-/

namespace Finality

open Finset

/-- What is reported of an approval with a fault: the report of the fault itself, with the place
and the account of the validator added to its data. -/
theorem Rejection.report_signature (fault : SignatureFault) (index : Nat) (account : String) :
    (signature fault (some (index, account))).report =
      { (signature fault none).report with
        data := (signature fault none).report.data ++
          [("validator_index", .nat index), ("account_id", .text account)] } := by
  cases fault <;> rfl

namespace Tally

/-! ## The lowest fault -/

theorem judge_fault_eq_some_iff [Signing] {message : Bytes} {ballot : Ballot}
    {fault : SignatureFault} :
    (ballot.judge message).fault = some fault ↔
      ballot.signature.check message ballot.validator.key = .error fault := by
  rw [Ballot.judge]
  split
  · next passed => simp [passed]
  · next other failed => simp [failed]

theorem lower_eq_some {left right : Option (Ballot × SignatureFault)}
    {lowest : Ballot × SignatureFault} (found : lower left right = some lowest) :
    (left = some lowest ∨ right = some lowest) ∧
      ∀ other, left = some other ∨ right = some other → lowest.1.index ≤ other.1.index := by
  cases left with
  | none =>
      rw [lower] at found
      subst found
      simp
  | some left =>
      cases right with
      | none =>
          rw [lower] at found
          cases found
          simp
      | some right =>
          simp only [lower] at found
          split at found
          · next below =>
            cases found
            refine ⟨Or.inr rfl, ?_⟩
            rintro other (⟨⟨⟩⟩ | ⟨⟨⟩⟩)
            · exact Nat.le_of_lt below
            · exact Nat.le_refl _
          · next notBelow =>
            cases found
            refine ⟨Or.inl rfl, ?_⟩
            rintro other (⟨⟨⟩⟩ | ⟨⟨⟩⟩)
            · exact Nat.le_refl _
            · exact Nat.not_lt.1 notBelow

/-- The lowest fault is one of a verdict, and no faulty ballot has a lower position. -/
theorem lowestFault?_eq_some {verdicts : List Verdict} {ballot : Ballot}
    {fault : SignatureFault} (found : lowestFault? verdicts = some (ballot, fault)) :
    (∃ verdict ∈ verdicts, verdict.ballot = ballot ∧ verdict.fault = some fault) ∧
      ∀ verdict ∈ verdicts, verdict.fault ≠ none → ballot.index ≤ verdict.ballot.index := by
  induction verdicts generalizing ballot fault with
  | nil => cases found
  | cons verdict verdicts ih =>
      rw [lowestFault?] at found
      obtain ⟨from?, least⟩ := lower_eq_some found
      constructor
      · rcases from? with here | there
        · rcases Option.map_eq_some_iff.1 here with ⟨_, faulty, equal⟩
          cases equal
          exact ⟨verdict, List.mem_cons_self, rfl, faulty⟩
        · rcases (ih there).1 with ⟨other, member, isBallot, faulty⟩
          exact ⟨other, List.mem_cons_of_mem _ member, isBallot, faulty⟩
      · intro other member faulty
        rcases Option.ne_none_iff_exists'.1 faulty with ⟨otherFault, isFaulty⟩
        rcases List.mem_cons.1 member with rfl | inRest
        · exact least (other.ballot, otherFault) (Or.inl (by rw [isFaulty, Option.map_some]))
        · -- The lowest fault of the rest is not above that of the verdict in it.
          cases rest : lowestFault? verdicts with
          | none =>
              rw [lowestFault?_eq_none_iff.1 rest other inRest] at isFaulty
              cases isFaulty
          | some lowest =>
              have first := least lowest (Or.inr rest)
              have second := (ih rest).2 other inRest faulty
              exact Nat.le_trans first second

end Tally

variable [Signing]

namespace Roster

variable {roster : Roster} {approvals : List (Option Signature)} {message : Bytes}
  {position : roster.Position} {fault : SignatureFault}

/-! ## Outcomes -/

/-- The approval at a place verifies under the key there, if one is present. -/
def VerifiesAt (roster : Roster) (approvals : List (Option Signature)) (message : Bytes)
    (position : roster.Position) : Prop :=
  ∀ signature, approvalAt? approvals position = some signature →
    signature.check message (roster.validatorAt position).key = .ok ()

/-- An approval is present at a place, and it has a fault under the key there. -/
def FailsAt (roster : Roster) (approvals : List (Option Signature)) (message : Bytes)
    (position : roster.Position) (fault : SignatureFault) : Prop :=
  ∃ signature, approvalAt? approvals position = some signature ∧
    signature.check message (roster.validatorAt position).key = .error fault

theorem FailsAt.not_verifiesAt (fails : roster.FailsAt approvals message position fault) :
    ¬roster.VerifiesAt approvals message position := by
  intro verifies
  rcases fails with ⟨signature, present, failed⟩
  rw [verifies signature present] at failed
  cases failed

theorem FailsAt.unique {other : SignatureFault}
    (fails : roster.FailsAt approvals message position fault)
    (otherFails : roster.FailsAt approvals message position other) : fault = other := by
  rcases fails with ⟨signature, present, failed⟩
  rcases otherFails with ⟨again, otherPresent, otherFailed⟩
  rw [present] at otherPresent
  cases otherPresent
  rw [failed] at otherFailed
  exact Except.error.inj otherFailed

/-- What counting the stake behind approvals comes to. -/
inductive Counts (roster : Roster) (approvals : List (Option Signature)) (message : Bytes) :
    Except Rejection Nat → Prop where
  | tooMany (unseated : roster.size < approvals.length) :
      Counts roster approvals message (.error (.tooManyApprovals approvals.length roster.size))
  | faulty {position : roster.Position} {fault : SignatureFault}
      (seated : approvals.length ≤ roster.size)
      (fails : roster.FailsAt approvals message position fault)
      (lowest : ∀ lower < position, roster.VerifiesAt approvals message lower) :
      Counts roster approvals message
        (.error (.signature fault (some (position, (roster.validatorAt position).account))))
  | sound (seated : approvals.length ≤ roster.size)
      (verified : ∀ position, roster.VerifiesAt approvals message position) :
      Counts roster approvals message (.ok (roster.stakeOf (roster.signers approvals)))

theorem Counts.unique {outcome other : Except Rejection Nat}
    (counts : roster.Counts approvals message outcome)
    (otherCounts : roster.Counts approvals message other) : outcome = other := by
  cases counts with
  | tooMany unseated =>
      cases otherCounts with
      | tooMany _ => rfl
      | faulty seated _ _ => exact absurd seated (Nat.not_le.2 unseated)
      | sound seated _ => exact absurd seated (Nat.not_le.2 unseated)
  | @faulty position fault seated fails lowest =>
      cases otherCounts with
      | tooMany unseated => exact absurd seated (Nat.not_le.2 unseated)
      | @faulty place otherFault _ otherFails otherLowest =>
          rcases lt_trichotomy position place with below | rfl | above
          · exact absurd (otherLowest position below) fails.not_verifiesAt
          · rw [fails.unique otherFails]
          · exact absurd (lowest place above) otherFails.not_verifiesAt
      | sound _ verified => exact absurd (verified position) fails.not_verifiesAt
  | sound seated verified =>
      cases otherCounts with
      | tooMany unseated => exact absurd seated (Nat.not_le.2 unseated)
      | @faulty position fault _ fails _ =>
          exact absurd (verified position) fails.not_verifiesAt
      | sound _ _ => rfl

/-- The lowest fault among the verdicts is what counting comes to. -/
theorem counts_of_lowestFault? {ballot : Tally.Ballot} (seated : approvals.length ≤ roster.size)
    (found : Tally.lowestFault? ((Tally.ballots 0 roster.validators approvals).map
      (Tally.Ballot.judge message)) = some (ballot, fault)) :
    roster.Counts approvals message
      (.error (.signature fault (some (ballot.index, ballot.validator.account)))) := by
  obtain ⟨⟨verdict, verdictMember, isBallot, isFault⟩, least⟩ := Tally.lowestFault?_eq_some found
  rcases List.mem_map.1 verdictMember with ⟨judged, member, rfl⟩
  rw [Tally.judge_ballot] at isBallot
  subst isBallot
  rcases mem_ballots_iff.1 member with ⟨position, index, validatorAt, present⟩
  have failed := Tally.judge_fault_eq_some_iff.1 isFault
  rw [validatorAt] at failed
  rw [index, validatorAt]
  refine .faulty seated ⟨_, present, failed⟩ ?_
  intro lower below signature presentLower
  have lowerMember : ⟨lower, roster.validatorAt lower, signature⟩ ∈
      Tally.ballots 0 roster.validators approvals :=
    mem_ballots_iff.2 ⟨lower, rfl, rfl, presentLower⟩
  have passes := mt (least _ (List.mem_map_of_mem lowerMember))
  rw [Tally.judge_ballot, index, Nat.not_le, not_not, Tally.judge_fault_eq_none_iff] at passes
  exact passes below

end Roster

theorem counts_tally (roster : Roster) (approvals : List (Option Signature)) (message : Bytes)
    (workers : Int) : roster.Counts approvals message (tally roster approvals message workers) := by
  cases counted : tally roster approvals message workers with
  | ok stake =>
      rcases tally_eq_ok_iff.1 counted with ⟨seated, verified, rfl⟩
      exact .sound seated verified
  | error rejection =>
      by_cases unseated : roster.size < approvals.length
      · rw [tally, if_pos unseated] at counted
        cases counted
        exact .tooMany unseated
      · have seated : approvals.length ≤ roster.size := Nat.not_lt.1 unseated
        rw [tally_of_seated seated, Tally.settle] at counted
        split at counted
        · next ballot fault found =>
          cases counted
          exact Roster.counts_of_lowestFault? seated found
        · cases counted

theorem tally_eq_iff_counts {roster : Roster} {approvals : List (Option Signature)}
    {message : Bytes} {workers : Int} {outcome : Except Rejection Nat} :
    tally roster approvals message workers = outcome ↔
      roster.Counts approvals message outcome := by
  constructor
  · rintro rfl
    exact counts_tally roster approvals message workers
  · intro counts
    exact (counts_tally roster approvals message workers).unique counts

/-! ## Filling a place -/

namespace Roster

variable {roster : Roster} {approvals filled : List (Option Signature)} {message : Bytes}
  {position : roster.Position} {signature : Signature}

/-- Approvals with one more than others: a place that was empty has an approval that verifies
there. -/
structure Fills (roster : Roster) (approvals filled : List (Option Signature)) (message : Bytes)
    (position : roster.Position) (signature : Signature) : Prop where
  absent : approvalAt? approvals position = none
  present : approvalAt? filled position = some signature
  verifies : signature.check message (roster.validatorAt position).key = .ok ()
  elsewhere : ∀ place : Nat, place ≠ position →
    approvalAt? filled place = approvalAt? approvals place
  seated : approvals.length ≤ roster.size
  filledSeated : filled.length ≤ roster.size

namespace Fills

variable (fills : roster.Fills approvals filled message position signature)
include fills

theorem verifiesAt {place : roster.Position}
    (verifies : roster.VerifiesAt approvals message place) :
    roster.VerifiesAt filled message place := by
  intro other present
  by_cases here : place = position
  · subst here
    rw [fills.present] at present
    cases present
    exact fills.verifies
  · rw [fills.elsewhere place (Fin.val_ne_of_ne here)] at present
    exact verifies other present

theorem failsAt {place : roster.Position} {fault : SignatureFault}
    (fails : roster.FailsAt approvals message place fault) :
    roster.FailsAt filled message place fault := by
  rcases fails with ⟨other, present, failed⟩
  have elsewhere : place ≠ position := by
    rintro rfl
    rw [fills.absent] at present
    cases present
  refine ⟨other, ?_, failed⟩
  rw [fills.elsewhere place (Fin.val_ne_of_ne elsewhere)]
  exact present

theorem signers_eq : roster.signers filled = insert position (roster.signers approvals) := by
  ext place
  rw [mem_insert, mem_signers, mem_signers]
  by_cases here : place = position
  · subst here
    simp [fills.present]
  · simp [here, fills.elsewhere place (Fin.val_ne_of_ne here)]

theorem stakeOf_signers : roster.stakeOf (roster.signers filled) =
    roster.stakeOf (roster.signers approvals) + (roster.validatorAt position).stake.units := by
  have fresh : position ∉ roster.signers approvals := by
    rw [mem_signers, fills.absent]
    simp
  rw [fills.signers_eq, stakeOf, sum_insert fresh, Nat.add_comm]
  rfl

/-- An approval that verifies adds its stake to the count, and leaves a fault what it was. -/
theorem counts {outcome : Except Rejection Nat}
    (counted : roster.Counts approvals message outcome) :
    roster.Counts filled message
      (outcome.map (· + (roster.validatorAt position).stake.units)) := by
  cases counted with
  | tooMany unseated => exact absurd fills.seated (Nat.not_le.2 unseated)
  | faulty seated fails lowest =>
      refine .faulty fills.filledSeated (fills.failsAt fails) ?_
      intro lower below
      exact fills.verifiesAt (lowest lower below)
  | sound seated verified =>
      have sound : roster.Counts filled message (.ok (roster.stakeOf (roster.signers filled))) :=
        .sound fills.filledSeated fun place => fills.verifiesAt (verified place)
      rw [fills.stakeOf_signers] at sound
      exact sound

end Fills

/-! ## Exactness -/

/-- All that is known of counting the stake behind approvals. -/
structure CountsExactly (roster : Roster) (approvals : List (Option Signature))
    (message : Bytes) : Prop where
  /-- The outcome is the one that is described, for any number of workers. -/
  outcome : ∀ workers result,
    tally roster approvals message workers = result ↔ roster.Counts approvals message result
  /-- A count that fails does so for an invalid signature. -/
  reason : ∀ workers rejection, tally roster approvals message workers = .error rejection →
    rejection.report.reason = .invalidSignature
  /-- The report of a fault at a place is that of the fault with place and account added. -/
  located : ∀ workers fault index account,
    tally roster approvals message workers = .error (.signature fault (some (index, account))) →
      (Rejection.signature fault (some (index, account))).report =
        { (Rejection.signature fault none).report with
          data := (Rejection.signature fault none).report.data ++
            [("validator_index", .nat index), ("account_id", .text account)] }
  /-- No count passes the stake of the roster. -/
  bounded : ∀ workers stake, tally roster approvals message workers = .ok stake →
    stake ≤ roster.total
  /-- The ballots can be judged in any order. -/
  anyOrder : approvals.length ≤ roster.size → ∀ workers (order : List Tally.Ballot),
    order.Perm (Tally.ballots 0 roster.validators approvals) →
      Tally.settle (order.map (Tally.Ballot.judge message)) =
        tally roster approvals message workers
  /-- One more approval that verifies adds its stake. -/
  filling : ∀ workers filled position signature,
    roster.Fills approvals filled message position signature →
      tally roster filled message workers =
        (tally roster approvals message workers).map
          (· + (roster.validatorAt position).stake.units)

end Roster

/-- Take any roster, approvals and message. Counting the stake behind the approvals fails if there
are more of them than validators, and else if a present one does not verify under the key at its
place: then the fault at the lowest such place is reported, with the place and its account.
Otherwise the count is the stake at the places with an approval. All this is the same for every
number of workers and every order in which the approvals are judged, and one more approval that
verifies never lowers the count. -/
theorem tally_countsExactly (roster : Roster) (approvals : List (Option Signature))
    (message : Bytes) : roster.CountsExactly approvals message where
  outcome := fun _ _ => tally_eq_iff_counts
  reason := by
    intro workers rejection counted
    have counts := tally_eq_iff_counts.1 counted
    cases counts with
    | tooMany _ => rfl
    | faulty _ _ _ =>
        rw [Rejection.report_signature]
        rfl
  located := fun _ fault index account _ => Rejection.report_signature fault index account
  bounded := by
    intro workers stake counted
    have counts := tally_eq_iff_counts.1 counted
    cases counts with
    | sound _ _ => exact Roster.stakeOf_le_total _
  anyOrder := by
    intro seated workers order permuted
    rw [tally_of_seated seated]
    exact Tally.settle_judged_perm (permuted.map _)
  filling := by
    intro workers filled position signature fills
    exact tally_eq_iff_counts.2 (fills.counts (counts_tally roster approvals message workers))

end Finality
