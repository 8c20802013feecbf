import Finality.Client.Host

/-!
# Edits

Besides making calls for a client, a host can write its records directly: commit scalars
together with a state and a roster, or drop the states at some heights. An edit makes all of
its writes in one batch and looks at nothing that is kept.
-/

namespace Finality

/-- A direct change of the records of a client. -/
inductive Edit where
  /-- Write scalars, and a state and a roster where there are any. -/
  | commit (state : ClientState) (consensus : Option (Height × ConsensusState))
      (roster : Option (Bytes × Roster))
  /-- Drop the states at heights, whether there are any or not. -/
  | drop (heights : List Height)

namespace Edit

/-- The writes of an edit. -/
def writes (client : ClientId) : Edit → List Write
  | commit state consensus roster => client.commitWrites state consensus roster
  | drop heights => client.pruneWrites heights

/-- The number of heights that an edit drops, if it is a drop. -/
def count? : Edit → Option Nat
  | commit .. => none
  | drop heights => some heights.length

/-- What is logged about an edit. -/
def events (client : ClientId) : Edit → List Event
  | commit .. => []
  | drop heights => client.pruneEvents heights.length

end Edit

namespace Store

/-- Make an edit of the records of a client. -/
def edit (store : Store) (client : ClientId) (edit : Edit) : Outcome Store :=
  let (store, outcome) := store.commitFor client (edit.writes client)
  outcome.map fun () => store

/-- Make edits of the records of clients, one after the other. -/
def editAll (store : Store) (edits : List (ClientId × Edit)) : Outcome Store :=
  edits.foldlM (fun store entry => store.edit entry.1 entry.2) store

end Store

end Finality
