import Finality.Client.Host

/-!
# Operations of several clients

Besides making calls, a host reads what is kept for a client. A read changes nothing. The
operations of any number of clients are carried out on one store, one after the other.
-/

namespace Finality

/-- What is read of the records of a client. -/
inductive Query where
  /-- The scalars, if the client was initialised. -/
  | state
  /-- The scalars of a client that was initialised. -/
  | installed
  /-- The state at a height. -/
  | consensus (height : Height)
  /-- All states in the order of their heights. -/
  | states
  /-- The roster of an epoch. -/
  | roster (epoch : Bytes)
  /-- The rosters of all epochs. -/
  | epochs

/-- What a read finds. -/
inductive Finding where
  | state (state : Option ClientState)
  | consensus (consensus : Option ConsensusState)
  | states (states : List (Height × ConsensusState))
  | roster (roster : Option Roster)
  | epochs (chain : EpochChain)

/-- The outcome of a read on the content of a store. -/
def Query.run (client : ClientId) (records : Records) : Query → Outcome Finding
  | .state => (client.clientState? records).map .state
  | .installed => (client.clientState records).map fun state => .state (some state)
  | .consensus height => (client.consensusState? records height).map .consensus
  | .states => (client.consensusStates records).map .states
  | .roster epoch => (client.roster? records epoch).map .roster
  | .epochs => (client.epochChain records).map .epochs

/-- What a host does for a client: it makes a request, or it reads. -/
inductive Operation where
  | request (request : Request)
  | query (client : ClientId) (query : Query)

/-- The client that an operation is made for. -/
def Operation.client : Operation → ClientId
  | .request call => call.client
  | .query owner _ => owner

/-- What an operation gives. -/
inductive Response where
  | reply (reply : Reply)
  | finding (finding : Finding)

namespace Store

/-- Read the records of a client. -/
def read (store : Store) (client : ClientId) (query : Query) : Outcome Finding := do
  query.run client (← store.content)

variable [Signing]

/-- Carry out an operation: the store afterwards, and what the operation gives. -/
def perform (store : Store) : Operation → Store × Outcome Response
  | .request request =>
    let (next, answer) := store.submit request
    (next, answer.map .reply)
  | .query client query => (store, (store.read client query).map .finding)

/-- Carry out operations, one after the other: the store afterwards, and each operation with
what it gives. -/
def performAll (store : Store) : List Operation → Store × List (Operation × Outcome Response)
  | [] => (store, [])
  | operation :: operations =>
    let (next, response) := store.perform operation
    let (last, responses) := next.performAll operations
    (last, (operation, response) :: responses)

end Store

end Finality
