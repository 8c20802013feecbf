import Finality.Chain.Roster
import Finality.Chain.State

/-!
# Headers and misbehaviour

A header is what a relayer submits: the fields of a block that light clients read, the
hashes that complete the block, the roster of its epoch where that is new, and one
optional approval for each place of the roster. Misbehaviour is a pair of headers that
should not both exist.
-/

namespace Finality

/-- The fields of a block that light clients read. -/
structure InnerHeader where
  /-- The height of the block. -/
  height : UInt64
  /-- The epoch of the block. -/
  epochId : Hash
  /-- The epoch after it. -/
  nextEpochId : Hash
  /-- The root of the state before the block. -/
  stateRoot : Hash
  /-- The root of the outcomes of the block. -/
  outcomeRoot : Hash
  /-- The time of the block. -/
  timestamp : UInt64
  /-- The commitment to the roster of the next epoch. -/
  nextRosterHash : Hash
  /-- The root of all block hashes so far. -/
  blockRoot : Hash
deriving DecidableEq

/-- A header as a relayer submits it. -/
structure Header where
  /-- The hash of the block before. -/
  previousHash : Hash
  /-- The inner hash of the block after. -/
  nextInnerHash : Hash
  /-- The fields of the block itself. -/
  inner : InnerHeader
  /-- The hash of the fields that light clients do not read. -/
  restHash : Hash
  /-- The roster of the header's own epoch, needed when it is new. -/
  validators : Option (List Validator)
  /-- One optional approval for each place of the roster. -/
  approvals : List (Option Signature)
deriving DecidableEq

/-- The height of a header. -/
def Header.height (header : Header) : Height := .ofBlock header.inner.height

/-- Two headers submitted as evidence against the tracked chain. -/
structure Misbehaviour where
  /-- The client that the evidence is for. -/
  clientId : String
  /-- The height of the consensus state to verify both headers against. -/
  trustedHeight : Height
  /-- One of the headers. -/
  first : Header
  /-- The other header. -/
  second : Header
deriving DecidableEq

end Finality
