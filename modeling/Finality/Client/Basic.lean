import Finality.Chain.EpochChain
import Finality.Store.Keyspace
import Finality.Store.Records
import Finality.Verification.Header

/-!
# The records of a client

A client keeps its scalars, its consensus states by height and the rosters of epochs, all
in compact form under keys of its own. The functions here read the records of a client
from the content of a store and say which records an operation writes.
-/

namespace Finality

/-- A value read from a record. -/
def decodeRecord (kind : Kind) (record : Bytes) : Outcome kind.Carrier :=
  orReject ((Compact.decode kind record).mapError .decode)

namespace ClientId

variable (client : ClientId) (records : Records)

/-- The key of the client's scalars. -/
def stateKey : Bytes := Keyspace.clients.key client []

/-- The key of the consensus state at a height. -/
def heightKey (height : Height) : Bytes := Keyspace.states.key client height.suffix

/-- The key of the roster of an epoch. -/
def epochKey (epoch : Bytes) : Bytes := Keyspace.epochs.key client epoch

/-- The value of a record of a kind, if there is such a record. -/
def readRecord? (kind : Kind) (key : Bytes) : Outcome (Option kind.Carrier) :=
  match records.get? key with
  | none => .ok none
  | some record => (decodeRecord kind record).map some

/-- The scalars of the client, if it was initialised. -/
def clientState? : Outcome (Option ClientState) :=
  readRecord? records .clientState client.stateKey

/-- The scalars of a client that was initialised. -/
def clientState : Outcome ClientState := do
  match ← client.clientState? records with
  | some state => return state
  | none => reject (.noClient client.text)

/-- The consensus state at a height. -/
def consensusState? (height : Height) : Outcome (Option ConsensusState) :=
  readRecord? records .consensusState (client.heightKey height)

/-- The roster of an epoch. -/
def roster? (epoch : Bytes) : Outcome (Option Roster) :=
  readRecord? records .roster (client.epochKey epoch)

/-- The part of a key behind the client's part of it. -/
def suffixOf (space : Keyspace) (key : Bytes) : Bytes := key.drop (space.stem client).length

/-- All consensus states in the order of their heights. -/
def consensusStates : Outcome (List (Height × ConsensusState)) :=
  (records.scan (Keyspace.states.stem client)).mapM fun (key, record) => do
    let some height := Height.ofSuffix? (client.suffixOf .states key) | throw .heightKey
    return (height, ← decodeRecord .consensusState record)

/-- A chain extended by a record of an epoch. -/
def extendByRecord (chain : EpochChain) (entry : Bytes × Bytes) : Outcome EpochChain := do
  let roster ← decodeRecord .roster entry.2
  chain.extend (client.suffixOf .epochs entry.1) roster

/-- The rosters of all epochs. -/
def epochChain : Outcome EpochChain :=
  (records.scan (Keyspace.epochs.stem client)).foldlM (client.extendByRecord) EpochChain.empty

/-- The trusted snapshot at a height. -/
def snapshot (state : ClientState) (height : Height) : Outcome Snapshot := do
  if state.latestHeight < height then
    reject (.trustedHeightAhead state.latestHeight height)
  let some consensus ← client.consensusState? records height
    | reject (.noTrustedState height)
  let some roster ← client.roster? records consensus.epochId.bytes
    | reject (.noRoster consensus.epochId)
  return ⟨state, height, consensus, roster⟩

/-- The writes of new scalars, and of a consensus state and a roster where there are any. -/
def commitWrites (state : ClientState) (consensus : Option (Height × ConsensusState))
    (roster : Option (Bytes × Roster)) : List Write :=
  .put client.stateKey (Compact.encode .clientState state)
    :: (consensus.toList.map fun (height, state) =>
        .put (client.heightKey height) (Compact.encode .consensusState state))
    ++ roster.toList.map fun (epoch, roster) =>
        .put (client.epochKey epoch) (Compact.encode .roster roster)

/-- The writes that drop the consensus states at heights. -/
def pruneWrites (heights : List Height) : List Write :=
  heights.map fun height => .delete (client.heightKey height)

end ClientId

/-- A number as a word of a new client state. -/
def Invalid.checkWord (field : String) (value : Int) : Except Invalid UInt64 :=
  if 0 ≤ value ∧ value < capacity 8 then .ok (UInt64.ofNat value.toNat)
  else .error (.notWord field (.int value))

/-- The scalars of a new client. Durations that are not given come from the configuration. -/
def ClientState.fresh (config : Config) (height : Height) (timestamp : Int)
    (trustingPeriod maxClockDrift : Option Int) : Except Invalid ClientState := do
  let timestamp ← Invalid.checkWord "latest_timestamp" timestamp
  let period ← Invalid.checkWord "trusting_period"
    (trustingPeriod.getD config.defaults.trustingPeriod)
  let drift ← Invalid.checkWord "max_clock_drift"
    (maxClockDrift.getD config.defaults.maxClockDrift)
  ClientState.ofFields height timestamp period drift none

end Finality
