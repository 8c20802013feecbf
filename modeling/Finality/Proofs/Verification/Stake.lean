import Mathlib.Algebra.BigOperators.Fin
import Mathlib.Algebra.BigOperators.Group.List.Basic
import Mathlib.Algebra.Order.BigOperators.Group.Finset
import Finality.Verification.Tally

/-!
# Stake over positions

Approvals count by position, so the stake behind them is a sum over the positions of a
roster at which an approval is present (`Roster.stakeOf`, `Roster.signers`).
`tally_eq_ok_iff` says when counting succeeds and that it gives this sum, for any number
of workers. Two sets of positions that together hold more than all stake overlap, and
`Roster.stakeOf_add_le_inter` says by how much.
-/

namespace Finality

open Finset

/-! ## Sums over a roster -/

theorem totalStake_eq_sum_map (validators : List Validator) :
    totalStake validators = (validators.map fun validator => validator.stake.units).sum := by
  induction validators with
  | nil => rfl
  | cons validator validators ih => rw [totalStake, ih, List.map_cons, List.sum_cons]

theorem totalStake_perm {left right : List Validator} (permuted : left.Perm right) :
    totalStake left = totalStake right := by
  rw [totalStake_eq_sum_map, totalStake_eq_sum_map]
  exact (permuted.map _).sum_eq

/-- The approval at a position, if one is present. -/
def approvalAt? (approvals : List (Option Signature)) (position : Nat) : Option Signature :=
  approvals[position]?.join

namespace Roster

/-- A place in a roster. -/
abbrev Position (roster : Roster) : Type := Fin roster.validators.length

variable {roster : Roster}

/-- The validator at a place. -/
def validatorAt (roster : Roster) (position : roster.Position) : Validator :=
  roster.validators.get position

/-- The stake of the validators at some places. -/
def stakeOf (roster : Roster) (positions : Finset roster.Position) : Nat :=
  ∑ position ∈ positions, (roster.validatorAt position).stake.units

/-- The places at which an approval is present. -/
def signers (roster : Roster) (approvals : List (Option Signature)) :
    Finset roster.Position :=
  univ.filter fun position => (approvalAt? approvals position).isSome

theorem mem_signers {approvals : List (Option Signature)} {position : roster.Position} :
    position ∈ roster.signers approvals ↔
      ∃ signature, approvalAt? approvals position = some signature := by
  simp [signers, Option.isSome_iff_exists]

theorem sum_stakes_eq_totalStake (validators : List Validator) :
    ∑ position : Fin validators.length, (validators.get position).stake.units =
      totalStake validators := by
  induction validators with
  | nil => rfl
  | cons validator validators ih =>
      rw [totalStake, ← ih]
      exact Fin.sum_univ_succ _

theorem stakeOf_univ (roster : Roster) : roster.stakeOf univ = roster.total :=
  sum_stakes_eq_totalStake roster.validators

theorem stakeOf_mono {left right : Finset roster.Position} (subset : left ⊆ right) :
    roster.stakeOf left ≤ roster.stakeOf right :=
  sum_le_sum_of_subset subset

theorem stakeOf_le_total (positions : Finset roster.Position) :
    roster.stakeOf positions ≤ roster.total := by
  rw [← stakeOf_univ]
  exact stakeOf_mono (subset_univ positions)

/-- What two sets of places hold together, beyond all stake, they hold in common. -/
theorem stakeOf_add_le_inter (left right : Finset roster.Position) :
    roster.stakeOf left + roster.stakeOf right ≤
      roster.total + roster.stakeOf (left ∩ right) := by
  have counted : roster.stakeOf (left ∪ right) + roster.stakeOf (left ∩ right) =
      roster.stakeOf left + roster.stakeOf right := sum_union_inter
  have bound := stakeOf_le_total (left ∪ right)
  omega

end Roster

namespace Tally

/-! ## Ballots -/

/-- A ballot joins the validator and the approval at one place. -/
theorem mem_ballots_iff {index : Nat} {validators : List Validator}
    {approvals : List (Option Signature)} {ballot : Ballot} :
    ballot ∈ ballots index validators approvals ↔
      ∃ place, ballot.index = index + place ∧
        validators[place]? = some ballot.validator ∧
        approvals[place]? = some (some ballot.signature) := by
  induction validators generalizing index approvals with
  | nil => cases approvals <;> simp [ballots]
  | cons validator validators ih =>
      cases approvals with
      | nil => simp [ballots]
      | cons approval approvals =>
          have split : (∃ place, ballot.index = index + place ∧
              (validator :: validators)[place]? = some ballot.validator ∧
              (approval :: approvals)[place]? = some (some ballot.signature)) ↔
              (ballot.index = index ∧ validator = ballot.validator ∧
                approval = some ballot.signature) ∨
              ballot ∈ ballots (index + 1) validators approvals := by
            rw [ih]
            constructor
            · intro given
              rcases given with ⟨place, indexEqual, validatorAt, approvalAt⟩
              cases place with
              | zero =>
                  exact Or.inl ⟨indexEqual, Option.some.inj validatorAt,
                    Option.some.inj approvalAt⟩
              | succ place => exact Or.inr ⟨place, by omega, validatorAt, approvalAt⟩
            · rintro (⟨indexEqual, validatorEqual, approvalEqual⟩ |
                ⟨place, indexEqual, validatorAt, approvalAt⟩)
              · exact ⟨0, indexEqual, congrArg some validatorEqual,
                  congrArg some approvalEqual⟩
              · exact ⟨place + 1, by omega, validatorAt, approvalAt⟩
          rw [split]
          cases approval with
          | none => simp [ballots]
          | some signature =>
              cases ballot
              simp [ballots, eq_comm, and_comm]

theorem totalStake_ballots (index : Nat) (validators : List Validator)
    (approvals : List (Option Signature)) :
    totalStake ((ballots index validators approvals).map (·.validator)) =
      ∑ position : Fin validators.length,
        if (approvalAt? approvals position).isSome then
          (validators.get position).stake.units else 0 := by
  induction validators generalizing index approvals with
  | nil => cases approvals <;> rfl
  | cons validator validators ih =>
      cases approvals with
      | nil => simp [ballots, approvalAt?, totalStake]
      | cons approval approvals =>
          have tail := ih (index + 1) approvals
          have unrolled : (∑ position : Fin (validator :: validators).length,
              if (approvalAt? (approval :: approvals) position).isSome then
                ((validator :: validators).get position).stake.units else 0) =
              (if approval.isSome then validator.stake.units else 0) +
                ∑ position : Fin validators.length,
                  if (approvalAt? approvals position).isSome then
                    (validators.get position).stake.units else 0 :=
            Fin.sum_univ_succ _
          rw [unrolled, ← tail]
          cases approval with
          | none => exact (Nat.zero_add _).symm
          | some signature => rfl

/-! ## Verdicts -/

@[simp] theorem judge_ballot [Signing] (message : Bytes) (ballot : Ballot) :
    (ballot.judge message).ballot = ballot := by
  rw [Ballot.judge]
  split <;> rfl

theorem judge_fault_eq_none_iff [Signing] {message : Bytes} {ballot : Ballot} :
    (ballot.judge message).fault = none ↔
      ballot.signature.check message ballot.validator.key = .ok () := by
  rw [Ballot.judge]
  split
  · next passed => simp [passed]
  · next fault failed => simp [failed]

/-- Items that are shared out are all there, in some order. -/
theorem flatten_shares_perm {α : Type} {workers : Nat} (positive : 0 < workers)
    (items : List α) : (shares workers items).flatten.Perm items := by
  rcases Nat.exists_eq_succ_of_ne_zero (Nat.ne_of_gt positive) with ⟨others, rfl⟩
  induction items with
  | nil =>
      have allEmpty : (shares (others + 1) ([] : List α)).flatten = [] := by
        simp [shares, share]
      rw [allEmpty]
  | cons item items ih =>
      -- The first worker takes the item; after it the second one is the first.
      have rotated : shares (others + 1) (item :: items) =
          (item :: share (others + 1) others items) ::
            (List.range others).map fun place => share (others + 1) place items := by
        simp [shares, share, List.range_succ_eq_map, Function.comp_def]
      have unrotated : shares (others + 1) items =
          ((List.range others).map fun place => share (others + 1) place items) ++
            [share (others + 1) others items] := by
        simp [shares, List.range_succ]
      rw [unrotated, List.flatten_append, List.flatten_singleton] at ih
      rw [rotated, List.flatten_cons, List.cons_append]
      exact (List.perm_append_comm.trans ih).cons item

/-- The verdicts do not depend on how the ballots are shared out. -/
theorem judgeAll_perm [Signing] (workers : Int) (message : Bytes) (ballots : List Ballot) :
    (judgeAll workers message ballots).Perm (ballots.map (Ballot.judge message)) := by
  rw [judgeAll]
  split
  · next shared =>
    have positive : 0 < min workers.toNat ballots.length := by omega
    rw [List.flatMap_def, ← List.map_flatten]
    exact (flatten_shares_perm positive ballots).map _
  · exact List.Perm.refl _

theorem lower_eq_none_iff {left right : Option (Ballot × SignatureFault)} :
    lower left right = none ↔ left = none ∧ right = none := by
  cases left with
  | none => simp [lower]
  | some left =>
      cases right with
      | none => simp [lower]
      | some right =>
          simp only [lower]
          split <;> simp

theorem lowestFault?_eq_none_iff {verdicts : List Verdict} :
    lowestFault? verdicts = none ↔ ∀ verdict ∈ verdicts, verdict.fault = none := by
  induction verdicts with
  | nil => simp [lowestFault?]
  | cons verdict verdicts ih => simp [lowestFault?, lower_eq_none_iff, ih]

theorem settle_eq_ok_iff {verdicts : List Verdict} {stake : Nat} :
    settle verdicts = .ok stake ↔
      (∀ verdict ∈ verdicts, verdict.fault = none) ∧ stake = stakeOf verdicts := by
  rw [settle, ← lowestFault?_eq_none_iff]
  split
  · next fault => simp [fault]
  · next sound => simp [sound, eq_comm]

end Tally

/-- The ballots of a roster are the approvals that are present, each with its place and the
validator there. -/
theorem Roster.mem_ballots_iff {roster : Roster} {approvals : List (Option Signature)}
    {ballot : Tally.Ballot} :
    ballot ∈ Tally.ballots 0 roster.validators approvals ↔
      ∃ position : roster.Position, ballot.index = position ∧
        ballot.validator = roster.validatorAt position ∧
        approvalAt? approvals position = some ballot.signature := by
  rw [Tally.mem_ballots_iff]
  constructor
  · rintro ⟨place, index, validatorAt, approvalAt⟩
    rcases List.getElem?_eq_some_iff.1 validatorAt with ⟨inRange, sameValidator⟩
    refine ⟨⟨place, inRange⟩, index.trans (Nat.zero_add place), sameValidator.symm, ?_⟩
    simp [approvalAt?, approvalAt]
  · rintro ⟨position, index, validatorAt, present⟩
    refine ⟨position, by omega, ?_, ?_⟩
    · simp [validatorAt, Roster.validatorAt]
    · simpa [approvalAt?, Option.join_eq_some_iff] using present

/-- Counting succeeds exactly if every present approval has a place in the roster and
verifies under the key there. It gives the stake at the places of the approvals. -/
theorem tally_eq_ok_iff [Signing] {roster : Roster} {approvals : List (Option Signature)}
    {message : Bytes} {workers : Int} {stake : Nat} :
    tally roster approvals message workers = .ok stake ↔
      approvals.length ≤ roster.size ∧
        (∀ (position : roster.Position) (signature : Signature),
          approvalAt? approvals position = some signature →
            signature.check message (roster.validatorAt position).key = .ok ()) ∧
        stake = roster.stakeOf (roster.signers approvals) := by
  rw [tally]
  split
  · next tooMany =>
    constructor
    · intro accepted
      cases accepted
    · intro given
      rcases given with ⟨enough, -⟩
      omega
  · next enough =>
    have permuted := Tally.judgeAll_perm workers message
      (Tally.ballots 0 roster.validators approvals)
    have counted : Tally.stakeOf (Tally.judgeAll workers message
        (Tally.ballots 0 roster.validators approvals)) =
        roster.stakeOf (roster.signers approvals) := by
      rw [Tally.stakeOf, totalStake_perm (permuted.map _), List.map_map]
      simp only [Function.comp_def, Tally.judge_ballot]
      rw [Tally.totalStake_ballots, Roster.stakeOf, Roster.signers, sum_filter]
      rfl
    have sound : (∀ verdict ∈ Tally.judgeAll workers message
        (Tally.ballots 0 roster.validators approvals), verdict.fault = none) ↔
        ∀ (position : roster.Position) (signature : Signature),
          approvalAt? approvals position = some signature →
            signature.check message (roster.validatorAt position).key = .ok () := by
      simp only [permuted.mem_iff, List.forall_mem_map, Tally.judge_fault_eq_none_iff,
        Roster.mem_ballots_iff]
      constructor
      · intro passed position signature present
        exact passed ⟨position, roster.validatorAt position, signature⟩
          ⟨position, rfl, rfl, present⟩
      · rintro passed ballot ⟨position, -, validatorAt, present⟩
        rw [validatorAt]
        exact passed position ballot.signature present
    rw [Tally.settle_eq_ok_iff, counted, sound]
    exact ⟨fun accepted => ⟨by omega, accepted⟩, fun accepted => accepted.2⟩

end Finality
