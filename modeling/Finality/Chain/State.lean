import Finality.Bytes
import Finality.Chain.Height

/-!
# Client and consensus states

A client state holds the scalars of one client; a consensus state is the trusted snapshot
that one accepted header leaves behind. Times and durations are nanoseconds.
-/

namespace Finality

/-- The scalars of a client. -/
structure ClientState where
  /-- The greatest height accepted so far. -/
  latestHeight : Height
  /-- The timestamp of the consensus state at the latest height. -/
  latestTimestamp : UInt64
  /-- How long a consensus state is trusted. -/
  trustingPeriod : UInt64
  /-- How far a header may be ahead of the state that it is verified against. -/
  maxClockDrift : UInt64
  /-- The height at which misbehaviour froze the client. -/
  frozenHeight : Option Height
  /-- States are trusted for some time. -/
  trustingPeriod_ne : trustingPeriod ≠ 0
deriving DecidableEq

namespace ClientState

/-- Whether misbehaviour has frozen the client. -/
def isFrozen (state : ClientState) : Bool := state.frozenHeight.isSome

/-- The state after accepting a header. -/
def advanced (state : ClientState) (height : Height) (timestamp : UInt64) : ClientState :=
  { state with latestHeight := height, latestTimestamp := timestamp }

/-- The state after proven misbehaviour. -/
def frozen (state : ClientState) (height : Height) : ClientState :=
  { state with frozenHeight := some height }

end ClientState

/-- The trusted snapshot of one accepted header. -/
structure ConsensusState where
  /-- The time of the block. -/
  timestamp : UInt64
  /-- The state root that proofs are checked against. -/
  stateRoot : Hash
  /-- The epoch of the block. -/
  epochId : Hash
  /-- The epoch after it. -/
  nextEpochId : Hash
  /-- The commitment to the roster of the next epoch. -/
  nextRosterHash : Hash
  /-- The hash of the block. -/
  blockHash : Hash
deriving DecidableEq

/-- Whether a state of time `timestamp` is out of its trusting period at time `now`; a state
ahead of `now` is not. -/
def ConsensusState.isExpired (state : ConsensusState) (now : Int) (trustingPeriod : UInt64) :
    Bool :=
  (trustingPeriod.toNat : Int) < now - state.timestamp.toNat

/-- What a client can be used for. -/
inductive Status where
  /-- The client accepts headers and verifies proofs. -/
  | active
  /-- Misbehaviour was proven. -/
  | frozen
  /-- The latest consensus state is missing or out of its trusting period. -/
  | expired
deriving DecidableEq

/-- The name of a status. -/
def Status.name : Status → String
  | active => "Active"
  | frozen => "Frozen"
  | expired => "Expired"

end Finality
