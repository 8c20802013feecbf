import Finality.Proofs.Client.Custody

/-!
# Clients on one store do not interfere

The records of a client can be taken out of a store by their keys (`ClientId.recordsOf`). A
request or a read of the client depends on them only (`Request.run_recordsOf`,
`Query.run_recordsOf`), a request of the client changes nothing but them
(`ClientId.recordsOf_effect_own`), and the requests of other clients do not change them
(`ClientId.recordsOf_effect_other`). So a store with the records of one client only goes along
with the shared store, as long as it is given the operations of that client: this is
`ClientId.Separates`, which every operation keeps.
-/

namespace Finality

/-! ## The records of one client -/

instance : DecidableEq ClientId := fun left right =>
  decidable_of_iff (left.text = right.text) ⟨ClientId.ext_text, congrArg ClientId.text⟩

namespace ClientId

/-- Whether a key is one of a client. -/
def owns (client : ClientId) (key : Bytes) : Bool :=
  Keyspace.families.any fun space => (space.stem client).isPrefixOf key

/-- The records of a client. -/
def recordsOf (client : ClientId) (records : Records) : Records :=
  records.filter fun entry => client.owns entry.1

variable {client : ClientId} {records : Records}

theorem owns_iff {key : Bytes} :
    client.owns key = true ↔ ∃ space ∈ Keyspace.families, space.stem client <+: key := by
  simp only [owns, List.any_eq_true, List.isPrefixOf_iff_prefix]

/-- The key of a record of a client is one of this client only. -/
theorem owns_key_iff {rival : ClientId} {space : Keyspace} {suffix : Bytes}
    (family : space ∈ Keyspace.families) :
    client.owns (space.key rival suffix) = true ↔ client = rival := by
  rw [owns_iff]
  constructor
  · rintro ⟨other, -, starts⟩
    exact (Keyspace.stem_isPrefix_key_iff.1 starts).2
  · intro same
    exact ⟨space, family, Keyspace.stem_isPrefix_key_iff.2 ⟨rfl, same⟩⟩

theorem get?_recordsOf (key : Bytes) :
    (client.recordsOf records).get? key = if client.owns key then records.get? key else none :=
  Records.get?_filter

theorem get?_recordsOf_key {space : Keyspace} (family : space ∈ Keyspace.families)
    (suffix : Bytes) :
    (client.recordsOf records).get? (space.key client suffix) =
      records.get? (space.key client suffix) := by
  rw [get?_recordsOf, if_pos ((owns_key_iff family).2 rfl)]

theorem SameRecords.recordsOf {left right : Records} (same : client.SameRecords left right) :
    client.recordsOf left = client.recordsOf right := by
  refine Records.ext_get? fun key => ?_
  rw [get?_recordsOf, get?_recordsOf]
  split
  · next owned =>
    rcases owns_iff.1 owned with ⟨space, -, suffix, rfl⟩
    exact same space suffix
  · rfl

/-! ## Reads -/

section

variable (client records)

theorem clientState?_recordsOf :
    client.clientState? (client.recordsOf records) = client.clientState? records :=
  readRecord?_congr (get?_recordsOf_key (by simp) [])

theorem consensusState?_recordsOf (height : Height) :
    client.consensusState? (client.recordsOf records) height =
      client.consensusState? records height :=
  readRecord?_congr (get?_recordsOf_key (by simp) height.suffix)

theorem roster?_recordsOf (epoch : Bytes) :
    client.roster? (client.recordsOf records) epoch = client.roster? records epoch :=
  readRecord?_congr (get?_recordsOf_key (by simp) epoch)

theorem scan_recordsOf {space : Keyspace} (family : space ∈ Keyspace.families) :
    (client.recordsOf records).scan (space.stem client) = records.scan (space.stem client) :=
  Records.scan_filter fun _ starts => owns_iff.2 ⟨space, family, starts⟩

theorem consensusStates_recordsOf :
    client.consensusStates (client.recordsOf records) = client.consensusStates records := by
  rw [consensusStates, scan_recordsOf client records (by simp),
    consensusStates]

theorem epochChain_recordsOf :
    client.epochChain (client.recordsOf records) = client.epochChain records := by
  rw [epochChain, scan_recordsOf client records (by simp), epochChain]

theorem clientState_recordsOf :
    client.clientState (client.recordsOf records) = client.clientState records := by
  rw [clientState, clientState?_recordsOf, clientState]

theorem liveState_recordsOf :
    client.liveState (client.recordsOf records) = client.liveState records := by
  rw [liveState, clientState_recordsOf, liveState]

theorem snapshot_recordsOf (state : ClientState) (height : Height) :
    client.snapshot (client.recordsOf records) state height =
      client.snapshot records state height := by
  simp only [snapshot, consensusState?_recordsOf, roster?_recordsOf]

theorem checkEpoch_recordsOf (verified : VerifiedHeader) :
    client.checkEpoch (client.recordsOf records) verified = client.checkEpoch records verified := by
  simp only [checkEpoch, epochChain_recordsOf]

end

end ClientId

/-! ## What depends on the records of one client -/

/-- A request has the same outcome where there are the records of its client only. -/
theorem Request.run_recordsOf [Signing] (request : Request) (records : Records) :
    request.run (request.client.recordsOf records) = request.run records := by
  rcases request with ⟨client, config, now, call⟩
  cases call with
  | install state consensus roster =>
      simp only [run, ClientId.install, ClientId.clientState?_recordsOf]
  | update header =>
      simp only [run, ClientId.update, ClientId.liveState_recordsOf,
        ClientId.snapshot_recordsOf, ClientId.checkEpoch_recordsOf]
  | misbehaviour misbehaviour =>
      simp only [run, ClientId.checkMisbehaviour, ClientId.liveState_recordsOf,
        ClientId.snapshot_recordsOf]
  | verify height proof key claim =>
      simp only [run, ClientId.verifyClaim, ClientId.liveState_recordsOf,
        ClientId.consensusState?_recordsOf]
  | status =>
      simp only [run, ClientId.status, ClientId.clientState_recordsOf,
        ClientId.consensusState?_recordsOf]
  | prune =>
      simp only [run, ClientId.prune, ClientId.clientState_recordsOf,
        ClientId.consensusStates_recordsOf]

/-- A read has the same outcome where there are the records of its client only. -/
theorem Query.run_recordsOf (client : ClientId) (records : Records) (query : Query) :
    query.run client (client.recordsOf records) = query.run client records := by
  cases query with
  | state => simp only [run, ClientId.clientState?_recordsOf]
  | installed => simp only [run, ClientId.clientState_recordsOf]
  | consensus height => simp only [run, ClientId.consensusState?_recordsOf]
  | states => simp only [run, ClientId.consensusStates_recordsOf]
  | roster epoch => simp only [run, ClientId.roster?_recordsOf]
  | epochs => simp only [run, ClientId.epochChain_recordsOf]

namespace ClientId

/-! ## What a request does to the records of one client -/

variable [Signing]

theorem recordsOf_effect_own (request : Request) (records : Records) :
    request.client.recordsOf (request.effect records) =
      request.effect (request.client.recordsOf records) := by
  rw [Request.effect, Request.effect, request.run_recordsOf]
  cases ran : request.run records with
  | error failure => rfl
  | ok accepted =>
      refine Records.filter_applyAll fun write member => ?_
      rcases (Request.run_eq_ok_iff.1 ran).exists_key member with ⟨space, family, suffix, key⟩
      rw [key]
      exact (owns_key_iff family).2 rfl

theorem recordsOf_effect_other {client : ClientId} (request : Request) (records : Records)
    (other : request.client ≠ client) :
    client.recordsOf (request.effect records) = client.recordsOf records :=
  (sameRecords_effect other).recordsOf

/-! ## A store of one client -/

/-- Two stores are open, and the second one has exactly the records that the first one has of a
client. -/
def Separates (client : ClientId) (shared alone : Store) : Prop :=
  ∃ records, shared.content? = some records ∧ alone.content? = some (client.recordsOf records)

variable {client : ClientId} {shared alone : Store}

/-- An operation of the client gives the same on either store, and does the same. -/
theorem Separates.perform_own (separates : client.Separates shared alone)
    {operation : Operation} (own : operation.client = client) :
    (alone.perform operation).2 = (shared.perform operation).2 ∧
      client.Separates (shared.perform operation).1 (alone.perform operation).1 := by
  subst own
  rcases separates with ⟨records, opened, openedAlone⟩
  cases operation with
  | request request =>
      rcases Store.submit_ok opened request with ⟨content, answer⟩
      rcases Store.submit_ok openedAlone request with ⟨contentAlone, answerAlone⟩
      constructor
      · have sameAnswer : (alone.submit request).2 = (shared.submit request).2 := by
          rw [answer, answerAlone]
          exact congrArg _ (request.run_recordsOf records)
        exact congrArg (Except.map Response.reply) sameAnswer
      · refine ⟨request.effect records, content, contentAlone.trans ?_⟩
        exact congrArg some (recordsOf_effect_own request records).symm
  | query client query =>
      refine ⟨?_, records, opened, openedAlone⟩
      have sameFinding : alone.read client query = shared.read client query := by
        rw [Store.read_eq opened, Store.read_eq openedAlone]
        exact query.run_recordsOf client records
      exact congrArg (Except.map Response.finding) sameFinding

/-- An operation of another client does nothing to the records of the client. -/
theorem Separates.perform_other (separates : client.Separates shared alone)
    {operation : Operation} (other : operation.client ≠ client) :
    client.Separates (shared.perform operation).1 alone := by
  rcases separates with ⟨records, opened, openedAlone⟩
  cases operation with
  | request request =>
      refine ⟨request.effect records, (Store.submit_ok opened request).1, openedAlone.trans ?_⟩
      exact congrArg some (recordsOf_effect_other request records other).symm
  | query client query => exact ⟨records, opened, openedAlone⟩

end ClientId

/-- Carry out the operations of any clients on one store, and the operations of one client
alone, in the same order, on a store that starts with the records of this client only. Then
the client gets the same from every one of its operations, and in the end the second store has
exactly the records that the first one has of the client. -/
theorem performAll_separate [Signing] {client : ClientId} {shared alone : Store}
    (separates : client.Separates shared alone) (operations : List Operation) :
    (alone.performAll (operations.filter fun operation => operation.client = client)).2 =
        (shared.performAll operations).2.filter (fun given => given.1.client = client) ∧
      client.Separates (shared.performAll operations).1
        (alone.performAll (operations.filter fun operation => operation.client = client)).1 := by
  induction operations generalizing shared alone with
  | nil => exact ⟨rfl, separates⟩
  | cons operation operations ih =>
      by_cases own : operation.client = client
      · rcases separates.perform_own own with ⟨sameResponse, next⟩
        rcases ih next with ⟨sameResponses, last⟩
        rw [List.filter_cons_of_pos (by simpa using own), Store.performAll, Store.performAll,
          List.filter_cons_of_pos (by simpa using own)]
        exact ⟨List.cons_eq_cons.2 ⟨congrArg _ sameResponse, sameResponses⟩, last⟩
      · -- The second store is not given the operation and stays behind unchanged.
        rw [List.filter_cons_of_neg (by simpa using own), Store.performAll,
          List.filter_cons_of_neg (by simpa using own)]
        exact ih (separates.perform_other own)

attribute [local instance] Signing.standard

namespace Sample

/-- A client whose id starts with the id of the first one. -/
def neighbour : ClientId := ⟨"cc", by decide, by decide⟩

/-- Install this client too. -/
def neighbouring : Request := { installing with client := neighbour }

/-- Install the first client and list its states, and drop states of the other one in between. -/
def crossing : List Operation :=
  [.request installing, .request { neighbouring with call := .prune }, .query client .states]

theorem separates_neighbouring :
    client.Separates ((Store.create .memory).after [neighbouring]) (Store.create .file) := by
  have other : neighbour ≠ client := by decide
  refine ⟨Records.empty.after [neighbouring], Store.content?_after rfl _, congrArg some ?_⟩
  exact (ClientId.recordsOf_effect_other neighbouring Records.empty other).symm

end Sample

/-- The first client notices nothing of the other one, which was there before. -/
theorem performAll_separate_sample :
    ((Store.create .file).performAll
        [.request Sample.installing, .query Sample.client .states]).2 =
      (((Store.create .memory).after [Sample.neighbouring]).performAll Sample.crossing).2.filter
        fun given => given.1.client = Sample.client := by
  have own : (Sample.crossing.filter fun operation => operation.client = Sample.client) =
      [.request Sample.installing, .query Sample.client .states] := rfl
  rw [← own]
  exact (performAll_separate Sample.separates_neighbouring Sample.crossing).1

end Finality
