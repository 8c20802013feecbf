import Finality.Verification.Header

/-!
# Misbehaviour

Two different headers that are both final prove misbehaviour if they conflict: at one
height they commit to different states or to different next rosters, or the higher of
them is not later than the lower one.
-/

namespace Finality

/-- How two final headers conflict. -/
inductive Conflict where
  | stateRoots
  | nextRosters
  | timeOrder
deriving DecidableEq

/-- The description of a conflict. -/
def Conflict.description : Conflict → String
  | stateRoots => "conflicting state roots"
  | nextRosters => "conflicting next-epoch validator commitments"
  | timeOrder => "time-monotonicity violation"

/-- Proven misbehaviour. -/
structure Evidence where
  /-- The height at which the client has to be frozen. -/
  freezeHeight : Height
  /-- How the headers conflict. -/
  conflict : Conflict

/-- The conflict of two final headers. -/
def findConflict (first second : Header) : Except Rejection Conflict :=
  if first.height = second.height then
    if first.inner.stateRoot ≠ second.inner.stateRoot then .ok .stateRoots
    else if first.inner.nextRosterHash ≠ second.inner.nextRosterHash then .ok .nextRosters
    else .error (.headersAgree first.height)
  else
    let (low, high) := if second.height < first.height then (second, first) else (first, second)
    if low.inner.timestamp < high.inner.timestamp then
      .error (.orderedInTime low.height high.height)
    else .ok .timeOrder

variable [Signing]

/-- Verify one header of misbehaviour. -/
def verifyPlace (config : Config) (trusted : Snapshot) (place : Place) (header : Header) :
    Outcome VerifiedHeader :=
  match verifyHeader config trusted header with
  | .error (.rejected rejection) => reject (.notFinal place rejection)
  | outcome => outcome

/-- The evidence that two headers give against a trusted snapshot. -/
def detect (config : Config) (trusted : Snapshot) (misbehaviour : Misbehaviour) :
    Outcome Evidence := do
  let first := misbehaviour.first
  let second := misbehaviour.second
  if first = second then reject (.identicalHeaders first.height)
  let _ ← verifyPlace config trusted .first first
  let _ ← verifyPlace config trusted .second second
  let conflict ← orReject (findConflict first second)
  return ⟨first.height.lower second.height, conflict⟩

/-- The evidence that two headers give if each of them has a worker of its own. Both are verified
to the end, and a failure of the first comes before one of the second. -/
def detectApart (config : Config) (trusted : Snapshot) (misbehaviour : Misbehaviour) :
    Outcome Evidence :=
  let first := misbehaviour.first
  let second := misbehaviour.second
  if first = second then reject (.identicalHeaders first.height)
  else
    match verifyPlace config trusted .first first, verifyPlace config trusted .second second with
    | .error failure, _ => .error failure
    | .ok _, .error failure => .error failure
    | .ok _, .ok _ =>
      (orReject (findConflict first second)).map fun conflict =>
        ⟨first.height.lower second.height, conflict⟩

end Finality
