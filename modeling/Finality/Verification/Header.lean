import Finality.Config.Basic
import Finality.Verification.Tally

/-!
# Verifying headers

A header is verified against a trusted snapshot: it has to be higher, of the same epoch or
of the next one with the roster that was committed to, approved by more than two thirds
of the stake of its roster, and not too far from the trusted state in time.
-/

namespace Finality

/-- What a header is verified against. -/
structure Snapshot where
  clientState : ClientState
  height : Height
  consensusState : ConsensusState
  roster : Roster

/-- What a verified header establishes. -/
structure VerifiedHeader where
  /-- The height of the header. -/
  height : Height
  /-- The state that the header leaves behind. -/
  consensusState : ConsensusState
  /-- The stake behind its approvals. -/
  verified : Nat
  /-- The stake of its roster. -/
  total : Nat
  /-- The epoch that the header opened, and its roster. -/
  newEpoch : Option (Hash × Roster)

/-- The roster that must have signed a header. -/
structure Selection where
  roster : Roster
  rollover : Bool

/-- Whether a number of validators passes a limit, if there is one. -/
def passesLimit (limit : Option Int) (got : Nat) : Option Int :=
  limit.bind fun limit => if limit < got then some limit else none

/-- The roster of a header that opens the epoch after the trusted one. -/
def openEpoch (trusted : ConsensusState) (header : Header) (maxValidators : Option Int) :
    Except Rejection Roster :=
  match header.validators with
  | none => .error (.noValidators header.inner.epochId)
  | some validators =>
    match passesLimit maxValidators validators.length with
    | some limit => .error (.limit .validators limit validators.length)
    | none =>
      match Roster.ofValidators validators with
      | .error reason => .error (.unusableValidators reason header.inner.epochId)
      | .ok roster =>
        if roster.commitment = trusted.nextRosterHash then .ok roster
        else .error (.wrongValidators trusted.nextRosterHash roster.commitment)

/-- The roster that must have signed a header: the trusted one within the trusted epoch, and
the one that the header carries if it opens the next epoch. -/
def selectRoster (trusted : Snapshot) (header : Header) (maxValidators : Option Int) :
    Except Rejection Selection :=
  let state := trusted.consensusState
  if header.inner.epochId = state.epochId then .ok ⟨trusted.roster, false⟩
  else if header.inner.epochId = state.nextEpochId then
    (openEpoch state header maxValidators).map fun roster => ⟨roster, true⟩
  else .error (.foreignEpoch state.epochId state.nextEpochId header.inner.epochId)

/-- Check that a header lies between the trusted time and the clock drift after it. -/
def checkTimestamp (client : ClientState) (trusted : ConsensusState) (header : Header) :
    Except Rejection Unit :=
  let bound := trusted.timestamp.toNat + client.maxClockDrift.toNat
  let got := header.inner.timestamp
  if got < trusted.timestamp then .error (.timestampBefore trusted.timestamp got)
  else if bound < got.toNat then .error (.timestampAfter bound got)
  else .ok ()

/-- Check that a limit is kept. -/
def checkLimit (resource : Resource) (limit : Int) (got : Nat) : Except Rejection Unit :=
  if limit < got then .error (.limit resource limit got) else .ok ()

/-- Verify a header against a trusted snapshot. -/
def verifyHeader [Signing] (config : Config) (trusted : Snapshot) (header : Header) :
    Outcome VerifiedHeader :=
  if trusted.height < header.height then do
    let maxValidators := config.limits.maxValidators
    let selection ← orReject (selectRoster trusted header (some maxValidators))
    let roster := selection.roster
    orReject (checkLimit .validators maxValidators roster.size)
    let some message := header.approvalMessage? | throw .heightOverflow
    let verified ← orReject
      (tally roster header.approvals message config.verifier.signatureWorkers)
    if !hasSupermajority verified roster.total then
      reject (.insufficientStake verified roster.total header.height)
    orReject (checkTimestamp trusted.clientState trusted.consensusState header)
    return {
      height := header.height
      consensusState := header.consensusState
      verified := verified
      total := roster.total
      newEpoch := if selection.rollover then some (header.inner.epochId, roster) else none }
  else reject (.heightNotAbove trusted.height header.height)

end Finality
