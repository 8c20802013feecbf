import Finality.Client.Basic
import Finality.Verification.Misbehaviour
import Finality.Verification.StateProof

/-!
# Calls of a client

The calls that a host makes: initialise the client, submit a header or misbehaviour, verify
a proof, ask for the status, and drop what is no longer trusted. A call reads the content
of a store. If it succeeds it says which records to write, all in one batch; if it fails
it writes nothing.
-/

namespace Finality

/-- The outcome of a call that was accepted. -/
structure Accepted (α : Type) where
  result : α
  writes : List Write

namespace ClientId

variable (client : ClientId) (records : Records)

/-- What the client can be used for at a time. -/
def status (now : Int) : Outcome Status := do
  let state ← client.clientState records
  if state.isFrozen then return .frozen
  match ← client.consensusState? records state.latestHeight with
  | none => return .expired
  | some latest => return if latest.isExpired now state.trustingPeriod then .expired else .active

/-- Install the client with a trusted state and the roster of its epoch. -/
def install (state : ClientState) (consensus : ConsensusState) (roster : Roster) :
    Outcome (Accepted Unit) := do
  if (← client.clientState? records).isSome then reject (.clientExists client.text)
  if let some height := state.frozenHeight then reject (.frozenAtStart height)
  if consensus.stateRoot = Hash.zero then reject .emptyStateRoot
  if consensus.timestamp ≠ state.latestTimestamp then
    reject (.timestampsDiffer state.latestTimestamp consensus.timestamp)
  return ⟨(), client.commitWrites state (some (state.latestHeight, consensus))
    (some (consensus.epochId.bytes, roster))⟩

/-- The scalars of a client that is not frozen. -/
def liveState : Outcome ClientState := do
  let state ← client.clientState records
  if let some height := state.frozenHeight then reject (.frozen height)
  return state

/-- Check that the roster of a new epoch agrees with the one known for it. -/
def checkEpoch (verified : VerifiedHeader) : Outcome Unit :=
  match verified.newEpoch with
  | none => .ok ()
  | some (epoch, roster) => do
    let chain ← client.epochChain records
    let _ ← chain.extend epoch.bytes roster
    return ()

variable [Signing]

/-- Verify a header and keep the state that it leaves behind. -/
def update (config : Config) (header : Header) : Outcome (Accepted ConsensusState) := do
  let state ← client.liveState records
  let trusted ← client.snapshot records state state.latestHeight
  let verified ← verifyHeader config trusted header
  client.checkEpoch records verified
  return ⟨verified.consensusState,
    client.commitWrites (state.advanced verified.height verified.consensusState.timestamp)
      (some (verified.height, verified.consensusState))
      (verified.newEpoch.map fun (epoch, roster) => (epoch.bytes, roster))⟩

/-- Freeze the client at the height of proven misbehaviour. -/
def checkMisbehaviour (config : Config) (misbehaviour : Misbehaviour) :
    Outcome (Accepted Height) := do
  let state ← client.liveState records
  if misbehaviour.clientId ≠ client.text then
    reject (.otherClient client.text misbehaviour.clientId)
  let trusted ← client.snapshot records state misbehaviour.trustedHeight
  let evidence ← detect config trusted misbehaviour
  return ⟨evidence.freezeHeight,
    client.commitWrites (state.frozen evidence.freezeHeight) none none⟩

/-- Verify a claim about a key against the state at a height. -/
def verifyClaim (config : Config) (height : Height) (proof : Proof) (key : Bytes)
    (claim : Claim) (now : Int) : Outcome Unit := do
  let state ← client.liveState records
  if state.latestHeight < height then reject (.proofHeightAhead state.latestHeight height)
  let some consensus ← client.consensusState? records height | reject (.noProofState height)
  orReject (verifyAgainst config state consensus proof key claim now)

/-- Drop the consensus states that are out of their trusting period, apart from the latest
one. -/
def prune (now : Int) : Outcome (Accepted (List Height)) := do
  let state ← client.clientState records
  let states ← client.consensusStates records
  let heights := (states.filter fun (height, consensus) =>
    height ≠ state.latestHeight && consensus.isExpired now state.trustingPeriod).map (·.1)
  return ⟨heights, client.pruneWrites heights⟩

end ClientId

end Finality
