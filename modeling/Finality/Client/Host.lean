import Finality.Client.Events
import Finality.Store.Basic

/-!
# Hosts

A host keeps the records of any number of clients in one store and makes calls for them. A
call is carried out on the content of the store; what it decides to write is committed in
one batch. A call that fails leaves the store as it was.
-/

namespace Finality

/-- A call of a client. -/
inductive Call where
  | install (state : ClientState) (consensus : ConsensusState) (roster : Roster)
  | update (header : Header)
  | misbehaviour (misbehaviour : Misbehaviour)
  | verify (height : Height) (proof : Proof) (key : Bytes) (claim : Claim)
  | status
  | prune

namespace Call

/-- Verify that a key has a value, or that it has none if no value is given. -/
def membership (height : Height) (proof : Proof) (key : Bytes) (value : Option Bytes) : Call :=
  .verify height proof key (.ofOption value)

/-- Verify that a key has no value. -/
def nonMembership (height : Height) (proof : Proof) (key : Bytes) : Call :=
  membership height proof key none

end Call

/-- The answer to a call. -/
inductive Reply where
  | done
  | state (state : ConsensusState)
  | frozenAt (height : Height)
  | status (status : Status)
  | pruned (heights : List Height)

/-- A call together with the client, the time and the configuration that it is made with. -/
structure Request where
  client : ClientId
  config : Config
  now : Int
  call : Call

variable [Signing]

namespace Request

/-- The outcome of a request on the content of a store. -/
def run (request : Request) (records : Records) : Outcome (Accepted Reply) :=
  let client := request.client
  match request.call with
  | .install state consensus roster => do
    let accepted ← client.install records state consensus roster
    return ⟨.done, accepted.writes⟩
  | .update header => do
    let accepted ← client.update records request.config header
    return ⟨.state accepted.result, accepted.writes⟩
  | .misbehaviour misbehaviour => do
    let accepted ← client.checkMisbehaviour records request.config misbehaviour
    return ⟨.frozenAt accepted.result, accepted.writes⟩
  | .verify height proof key claim => do
    client.verifyClaim records request.config height proof key claim request.now
    return ⟨.done, []⟩
  | .status => do
    let status ← client.status records request.now
    return ⟨.status status, []⟩
  | .prune => do
    let accepted ← client.prune records request.now
    return ⟨.pruned accepted.result, accepted.writes⟩

/-- The content of a store after a request: the writes of an accepted one are applied. -/
def effect (request : Request) (records : Records) : Records :=
  match request.run records with
  | .ok accepted => records.applyAll accepted.writes
  | .error _ => records

/-- What is logged about a request on the content of a store. -/
def events (request : Request) (records : Records) : List Event :=
  let client := request.client
  match request.call with
  | .install state _ _ => client.installEvents state ((request.run records).map fun _ => ())
  | .update header => client.updateEvents records request.config header
  | .misbehaviour misbehaviour =>
    client.misbehaviourEvents records request.config misbehaviour
  | .prune =>
    match client.prune records request.now with
    | .ok accepted => client.pruneEvents accepted.result.length
    | .error _ => []
  | .verify .. | .status => []

end Request

namespace Store

/-- Commit the writes of a client: the store afterwards, and whether it took them. -/
def commitFor (store : Store) (client : ClientId) (writes : List Write) : Store × Outcome Unit :=
  match store.commit writes with
  | (store, .ok ()) => (store, .ok ())
  | (store, .error _) => (store, reject (.storeClosed client.text))

/-- Make a request: the store afterwards, and the answer. -/
def submit (store : Store) (request : Request) : Store × Outcome Reply :=
  match store.content >>= request.run with
  | .error failure => (store, .error failure)
  | .ok accepted =>
    let (store, outcome) := store.commitFor request.client accepted.writes
    (store, outcome.map fun () => accepted.result)

/-- What is logged about a request. -/
def eventsOf (store : Store) (request : Request) : List Event :=
  match store.content? with
  | some records => request.events records
  | none => []

end Store

end Finality
