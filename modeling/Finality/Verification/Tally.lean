import Finality.Rejection

/-!
# Counting stake

The approvals of a header are matched with the validators of its roster by position. An
absent approval counts for nothing; a present one that does not verify makes the header
invalid, and of several the one at the lowest position is reported. The ballots can be
shared out among workers: the outcome depends only on which ballots there are, not on how
they are shared out.
-/

namespace Finality

/-- More than two thirds of the stake. -/
def hasSupermajority (verified total : Int) : Bool := 2 * total < 3 * verified

namespace Tally

/-- A present approval and the validator it belongs to. -/
structure Ballot where
  index : Nat
  validator : Validator
  signature : Signature

/-- The ballots of validators and approvals from a position on. -/
def ballots (index : Nat) : List Validator → List (Option Signature) → List Ballot
  | validator :: validators, some signature :: approvals =>
    ⟨index, validator, signature⟩ :: ballots (index + 1) validators approvals
  | _ :: validators, none :: approvals => ballots (index + 1) validators approvals
  | _, _ => []

/-- A ballot and the fault of its signature, if it has one. -/
structure Verdict where
  ballot : Ballot
  fault : Option SignatureFault

variable [Signing]

/-- The verdict on a ballot. -/
def Ballot.judge (message : Bytes) (ballot : Ballot) : Verdict :=
  match ballot.signature.check message ballot.validator.key with
  | .ok () => ⟨ballot, none⟩
  | .error fault => ⟨ballot, some fault⟩

/-- Every `workers`-th item, from the one in the given place on. -/
def share {α : Type} (workers place : Nat) : List α → List α
  | [] => []
  | item :: items =>
    if place = 0 then item :: share workers (workers - 1) items
    else share workers (place - 1) items

/-- Items shared out among workers, one after the other. -/
def shares {α : Type} (workers : Nat) (items : List α) : List (List α) :=
  (List.range workers).map fun place => share workers place items

/-- The verdicts on ballots that are shared out among workers. -/
def judgeAll (workers : Int) (message : Bytes) (ballots : List Ballot) : List Verdict :=
  if 1 < workers ∧ 1 < ballots.length then
    (shares (min workers.toNat ballots.length) ballots).flatMap fun share =>
      share.map (Ballot.judge message)
  else ballots.map (Ballot.judge message)

/-- The one of two faulty ballots at the lower position. -/
def lower : Option (Ballot × SignatureFault) → Option (Ballot × SignatureFault) →
    Option (Ballot × SignatureFault)
  | none, other => other
  | some fault, none => some fault
  | some left, some right => if right.1.index < left.1.index then some right else some left

/-- The faulty ballot at the lowest position. -/
def lowestFault? : List Verdict → Option (Ballot × SignatureFault)
  | [] => none
  | verdict :: verdicts =>
    lower (verdict.fault.map fun fault => (verdict.ballot, fault)) (lowestFault? verdicts)

/-- The stake behind ballots. -/
def stakeOf (verdicts : List Verdict) : Nat :=
  totalStake (verdicts.map fun verdict => verdict.ballot.validator)

/-- The stake behind ballots without a fault among them. -/
def settle (verdicts : List Verdict) : Except Rejection Nat :=
  match lowestFault? verdicts with
  | some (ballot, fault) =>
    .error (.signature fault (some (ballot.index, ballot.validator.account)))
  | none => .ok (stakeOf verdicts)

end Tally

/-- The stake of the validators whose approvals are present, all of which have to verify. -/
def tally [Signing] (roster : Roster) (approvals : List (Option Signature)) (message : Bytes)
    (workers : Int) : Except Rejection Nat :=
  if roster.size < approvals.length then
    .error (.tooManyApprovals approvals.length roster.size)
  else Tally.settle (Tally.judgeAll workers message (Tally.ballots 0 roster.validators approvals))

end Finality
