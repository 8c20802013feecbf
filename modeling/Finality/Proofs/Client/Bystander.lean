import Finality.Proofs.Client.WellKept

/-!
# A request leaves other clients alone

All that a call writes is under keys of its own client (`ClientId.Accepts.exists_key`), and a
key belongs to one client only. So a request changes no record of any other client
(`ClientId.sameRecords_effect`), and whatever depends on the records of one client alone holds
after requests of all clients: in particular, the records of a client stay well kept
(`ClientId.Kept.after_all`).
-/

namespace Finality

namespace ClientId

/-- Two contents have the same records of a client. -/
def SameRecords (client : ClientId) (left right : Records) : Prop :=
  ∀ (space : Keyspace) suffix,
    left.get? (space.key client suffix) = right.get? (space.key client suffix)

variable {client : ClientId} {records left right : Records} {state : ClientState}

/-! ## What is written -/

theorem exists_key_of_commit {consensus : Option (Height × ConsensusState)}
    {roster : Option (Bytes × Roster)} {write : Write}
    (member : write ∈ client.commitWrites state consensus roster) :
    ∃ space ∈ Keyspace.families, ∃ suffix, write.key = space.key client suffix := by
  rw [commitWrites, List.cons_append, List.mem_cons, List.mem_append, List.mem_map,
    List.mem_map] at member
  rcases member with rfl | ⟨entry, _, rfl⟩ | ⟨entry, _, rfl⟩
  · exact ⟨.clients, by simp, [], rfl⟩
  · exact ⟨.states, by simp, entry.1.suffix, rfl⟩
  · exact ⟨.epochs, by simp, entry.1, rfl⟩

theorem exists_key_of_prune {heights : List Height} {write : Write}
    (member : write ∈ client.pruneWrites heights) :
    ∃ space ∈ Keyspace.families, ∃ suffix, write.key = space.key client suffix := by
  rcases List.mem_map.1 member with ⟨height, _, rfl⟩
  exact ⟨.states, by simp, height.suffix, rfl⟩

/-- A call writes under keys of its own client only. -/
theorem Accepts.exists_key [Signing] {config : Config} {now : Int} {call : Call}
    {accepted : Accepted Reply} (accepts : client.Accepts records config now call accepted)
    {write : Write} (member : write ∈ accepted.writes) :
    ∃ space ∈ Keyspace.families, ∃ suffix, write.key = space.key client suffix := by
  cases accepts with
  | install fresh live rooted timed => exact exists_key_of_commit member
  | update live known passed bound => exact exists_key_of_commit member
  | misbehaviour live sameClient known proven => exact exists_key_of_commit member
  | verify shown => cases member
  | status asked => cases member
  | prune read listed => exact exists_key_of_prune member

/-- Writes under keys of one client change no record of another. -/
theorem sameRecords_applyAll {owner : ClientId} {writes : List Write} (other : owner ≠ client)
    (owned : ∀ write ∈ writes, ∃ space ∈ Keyspace.families, ∃ suffix,
      write.key = space.key owner suffix) :
    client.SameRecords (records.applyAll writes) records := by
  intro space suffix
  refine Records.get?_applyAll_of_untouched ?_
  intro write member sameKey
  rcases owned write member with ⟨otherSpace, -, otherSuffix, key⟩
  exact other (Keyspace.key_injective (key.symm.trans sameKey)).2.1

/-- A request changes no record of another client. -/
theorem sameRecords_effect [Signing] {request : Request} (other : request.client ≠ client) :
    client.SameRecords (request.effect records) records := by
  rcases request.effect_cases records with same | ⟨accepted, accepts, changed⟩
  · rw [same]
    exact fun _ _ => rfl
  · rw [changed]
    exact sameRecords_applyAll other fun _ => accepts.exists_key

/-- To the records of a client a request does nothing, or it is a request of the client that is
accepted and makes its writes. -/
theorem effect_cases [Signing] (client : ClientId) (request : Request) (records : Records) :
    client.SameRecords (request.effect records) records ∨
      request.client = client ∧ ∃ accepted,
        request.client.Accepts records request.config request.now request.call accepted ∧
          request.effect records = records.applyAll accepted.writes := by
  by_cases own : request.client = client
  · rcases request.effect_cases records with same | accepts
    · refine Or.inl fun space suffix => ?_
      rw [same]
    · exact Or.inr ⟨own, accepts⟩
  · exact Or.inl (sameRecords_effect own)

/-! ## What depends on the records of one client -/

namespace SameRecords

variable (same : client.SameRecords left right)
include same

theorem clientState? : client.clientState? left = client.clientState? right :=
  readRecord?_congr (same _ _)

theorem consensusState? (height : Height) :
    client.consensusState? left height = client.consensusState? right height :=
  readRecord?_congr (same _ _)

theorem roster? (epoch : Bytes) : client.roster? left epoch = client.roster? right epoch :=
  readRecord?_congr (same _ _)

theorem absent (absent : client.Absent right) : client.Absent left := by
  intro space member suffix
  rw [same space suffix]
  exact absent space member suffix

theorem legibleStates (legible : client.LegibleStates right) : client.LegibleStates left where
  heightKeys := by
    intro suffix present
    rw [same] at present
    exact legible.heightKeys suffix present
  readsStates := by
    intro height
    rw [same.consensusState?]
    exact legible.readsStates height

theorem legible (legible : client.Legible right) : client.Legible left where
  scalarKeys := by
    intro suffix present
    rw [same] at present
    exact legible.scalarKeys suffix present
  heightKeys := (same.legibleStates legible.legibleStates).heightKeys
  epochKeys := by
    intro suffix present
    rw [same] at present
    exact legible.epochKeys suffix present
  readsScalars := by
    rw [same.clientState?]
    exact legible.readsScalars
  readsStates := (same.legibleStates legible.legibleStates).readsStates
  readsRosters := by
    intro epoch
    rw [same.roster?]
    exact legible.readsRosters epoch

theorem wellKept (kept : client.WellKept right state) : client.WellKept left state where
  toLegible := same.legible kept.toLegible
  scalars := by
    rw [same.clientState?]
    exact kept.scalars
  latest := by
    rw [same.consensusState?]
    exact kept.latest
  greatest := by
    intro height consensus read
    rw [same.consensusState?] at read
    exact kept.greatest height consensus read
  rostered := by
    intro height consensus read
    rw [same.consensusState?] at read
    rw [same.roster?]
    exact kept.rostered height consensus read

theorem kept (kept : client.Kept right) : client.Kept left := by
  rcases kept with absent | ⟨state, wellKept⟩
  · exact Or.inl (same.absent absent)
  · exact Or.inr ⟨state, same.wellKept wellKept⟩

end SameRecords

/-! ## Requests of all clients -/

variable [Signing]

/-- One request of any client keeps the records of a client well. -/
theorem Kept.effect_any (kept : client.Kept records) (request : Request) :
    client.Kept (request.effect records) := by
  by_cases own : request.client = client
  · subst own
    exact kept.effect
  · exact (sameRecords_effect own).kept kept

/-- Any number of requests of any clients keeps the records of a client well. -/
theorem Kept.after_all (kept : client.Kept records) (requests : List Request) :
    client.Kept (records.after requests) :=
  Records.after_keeps _ (fun _ request kept => kept.effect_any request) kept requests

end ClientId

end Finality
