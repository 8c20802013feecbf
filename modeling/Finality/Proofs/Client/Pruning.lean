import Finality.Proofs.Client.Forks
import Finality.Proofs.Client.Listing

/-!
# Pruning

Dropping states takes them off the list of states and leaves the rest of it as it was
(`ClientId.Legible.consensusStates_prune`).

What is dropped at a time is out of its trusting period from then on. An update needs the
latest state and the rosters only, and a proof is verified against no expired state, so no
later call finds out whether a client was pruned: this is `ClientId.Pruned`.
-/

namespace Finality

namespace ConsensusState

variable {state : ConsensusState} {now later : Int} {period : UInt64}

theorem isExpired_iff :
    state.isExpired now period = true ↔ (period.toNat : Int) < now - state.timestamp.toNat := by
  rw [isExpired, decide_eq_true_iff]

/-- A state that is out of its trusting period stays so. -/
theorem isExpired_mono (passed : now ≤ later) (expired : state.isExpired now period = true) :
    state.isExpired later period = true := by
  rw [isExpired_iff] at expired ⊢
  omega

end ConsensusState

theorem not_isExpired_of_verifyAgainst {config : Config} {client : ClientState}
    {state : ConsensusState} {proof : Proof} {key : Bytes} {claim : Claim} {now : Int}
    (passed : verifyAgainst config client state proof key claim now = .ok ()) :
    ¬state.isExpired now client.trustingPeriod = true := by
  intro expired
  rw [verifyAgainst] at passed
  split at passed
  · cases passed
  · rw [if_pos expired] at passed
    cases passed

namespace Store

variable {store : Store} {records : Records} {client : ClientId}

theorem read_consensus_iff (opened : store.content? = some records) {height : Height}
    {consensus : ConsensusState} :
    store.read client (.consensus height) = .ok (.consensus (some consensus)) ↔
      client.consensusState? records height = .ok (some consensus) := by
  rw [read_eq opened, Query.run, Outcome.map_eq_ok_iff]
  constructor
  · rintro ⟨found, ran, same⟩
    cases same
    exact ran
  · intro ran
    exact ⟨some consensus, ran, rfl⟩

variable [Signing]

theorem submit_verify (opened : store.content? = some records) {config : Config} {now : Int}
    {height : Height} {proof : Proof} {key : Bytes} {claim : Claim} :
    (store.submit ⟨client, config, now, .verify height proof key claim⟩).2 =
      (client.verifyClaim records config height proof key claim now).map fun _ => .done :=
  snd_submit_of_run opened rfl

theorem submit_verify_iff (opened : store.content? = some records) {config : Config}
    {now : Int} {height : Height} {proof : Proof} {key : Bytes} {claim : Claim} :
    (store.submit ⟨client, config, now, .verify height proof key claim⟩).2 = .ok .done ↔
      client.verifyClaim records config height proof key claim now = .ok () := by
  rw [submit_verify opened, Outcome.map_eq_ok_iff]
  constructor
  · rintro ⟨_, passed, -⟩
    exact passed
  · intro passed
    exact ⟨(), passed, rfl⟩

end Store

namespace ClientId

variable {client : ClientId} {records : Records} {states : List (Height × ConsensusState)}
  {state : ClientState}

/-! ## Dropping states -/

section

variable {heights : List Height}

/-- Dropping states takes them off the list. -/
theorem Legible.consensusStates_prune (legible : client.Legible records)
    (listed : client.consensusStates records = .ok states) :
    client.consensusStates (records.applyAll (client.pruneWrites heights)) =
      .ok (states.filter fun entry => entry.1 ∉ heights) := by
  apply consensusStates_of_scan
  have scanned : (records.applyAll (client.pruneWrites heights)).scan
        (Keyspace.states.stem client) =
      (records.scan (Keyspace.states.stem client)).filter
        fun entry => entry.1 ∉ heights.map client.heightKey := by
    rw [pruneWrites_eq, Records.applyAll_deletes, Records.scan, Records.filter, Records.scan,
      List.filter_filter, List.filter_filter]
    simp only [Bool.and_comm]
  have injective : Function.Injective client.heightKey := fun _ _ => heightKey_inj.1
  rw [scanned, legible.legibleStates.scan_states listed, List.filter_map]
  simp only [Function.comp_def, heightRecord, List.mem_map_of_injective injective]

theorem epochChain_prune :
    client.epochChain (records.applyAll (client.pruneWrites heights)) =
      client.epochChain records := by
  have scanned : (records.applyAll (client.pruneWrites heights)).scan
        (Keyspace.epochs.stem client) =
      records.scan (Keyspace.epochs.stem client) := by
    rw [pruneWrites_eq, Records.applyAll_deletes]
    apply @Records.scan_filter records fun key => key ∉ heights.map client.heightKey
    intro key starts
    simp only [decide_not, Bool.not_eq_true', decide_eq_false_iff_not, List.mem_map]
    rintro ⟨height, -, rfl⟩
    exact Keyspace.states_ne_epochs (Keyspace.stem_isPrefix_key_iff.1 starts).1.symm
  rw [epochChain, scanned, epochChain]

theorem liveState_prune :
    client.liveState (records.applyAll (client.pruneWrites heights)) =
      client.liveState records := by
  simp only [liveState, clientState, clientState?_prune]

/-- An update is the same after states are dropped, if the latest one is not among them. -/
theorem WellKept.update_prune [Signing] (kept : client.WellKept records state)
    (spared : state.latestHeight ∉ heights) (config : Config) (header : Header) :
    client.update (records.applyAll (client.pruneWrites heights)) config header =
      client.update records config header := by
  rw [update, update, liveState_prune]
  cases live : client.liveState records with
  | error failure => rfl
  | ok other =>
      have read := (liveState_eq_ok_iff.1 live).1
      rw [kept.scalars] at read
      cases read
      -- Besides the latest state, only rosters are read.
      have snapshots : client.snapshot (records.applyAll (client.pruneWrites heights)) state
          state.latestHeight = client.snapshot records state state.latestHeight := by
        simp only [snapshot, consensusState?_prune, if_neg spared, roster?_prune]
      simp only [bind, Except.bind, snapshots, checkEpoch, epochChain_prune]

theorem WellKept.status_prune (kept : client.WellKept records state)
    (spared : state.latestHeight ∉ heights) (now : Int) :
    client.status (records.applyAll (client.pruneWrites heights)) now =
      client.status records now := by
  have scalars := clientState_eq_ok_iff.2 kept.scalars
  have sameScalars : client.clientState (records.applyAll (client.pruneWrites heights)) =
      .ok state := by
    rw [clientState_eq_ok_iff, clientState?_prune]
    exact kept.scalars
  simp only [status, scalars, sameScalars, bind, Except.bind, consensusState?_prune,
    if_neg spared]

end

/-- A claim is shown after the expired states are dropped exactly if it was before. -/
theorem WellKept.verifyClaim_prune {config : Config} {height : Height} {proof : Proof}
    {key : Bytes} {claim : Claim} {now later : Int} (kept : client.WellKept records state)
    (listed : client.consensusStates records = .ok states) (passed : now ≤ later) :
    client.verifyClaim
        (records.applyAll (client.pruneWrites (expiredHeights state states now)))
        config height proof key claim later = .ok () ↔
      client.verifyClaim records config height proof key claim later = .ok () := by
  rw [verifyClaim_eq_ok_iff, verifyClaim_eq_ok_iff, liveState_prune, consensusState?_prune]
  by_cases dropped : height ∈ expiredHeights state states now
  -- A dropped state is missing now, and it would be too old if it were there.
  · rw [if_pos dropped]
    constructor
    · rintro ⟨other, consensus, -, -, read, -⟩
      cases read
    · rintro ⟨other, consensus, live, -, read, shown⟩
      rcases (kept.toLegible.mem_expiredHeights_iff listed).1 dropped with
        ⟨-, known, found, expired⟩
      have scalars := (liveState_eq_ok_iff.1 live).1
      rw [kept.scalars] at scalars
      cases scalars
      rw [found] at read
      cases read
      exact absurd (ConsensusState.isExpired_mono passed expired)
        (not_isExpired_of_verifyAgainst shown)
  · rw [if_neg dropped]

/-! ## Pruned clients -/

/-- How the store of a client differs from the one before it was pruned at a time. Only the states
at the dropped heights are gone, and no later call depends on them. -/
structure Pruned [Signing] (client : ClientId) (state : ClientState) (now : Int)
    (heights : List Height)
    (store pruned : Store) : Prop where
  /-- What is dropped was kept at a height other than the latest, and was expired. -/
  exact : ∀ height, height ∈ heights ↔ height ≠ state.latestHeight ∧
    ∃ consensus, store.read client (.consensus height) = .ok (.consensus (some consensus)) ∧
      consensus.isExpired now state.trustingPeriod = true
  ascending : heights.Pairwise (· < ·)
  /-- The rest of the list of states stays as it was. -/
  remaining : ∃ states, store.read client .states = .ok (.states states) ∧
    pruned.read client .states = .ok (.states (states.filter fun entry => entry.1 ∉ heights))
  again : ∀ config, pruned.submit ⟨client, config, now, .prune⟩ = (pruned, .ok (.pruned []))
  sameStatus : ∀ config later,
    (pruned.submit ⟨client, config, later, .status⟩).2 =
      (store.submit ⟨client, config, later, .status⟩).2
  sameUpdates : ∀ config later header,
    (pruned.submit ⟨client, config, later, .update header⟩).2 =
      (store.submit ⟨client, config, later, .update header⟩).2
  /-- From the time of pruning on the same proofs verify, of presence and of absence. -/
  sameProofs : ∀ config later height proof key claim, now ≤ later →
    ((pruned.submit ⟨client, config, later, .verify height proof key claim⟩).2 = .ok .done ↔
      (store.submit ⟨client, config, later, .verify height proof key claim⟩).2 = .ok .done)

theorem Legible.ascending_expiredHeights (legible : client.Legible records)
    (listed : client.consensusStates records = .ok states) (now : Int) :
    (expiredHeights state states now).Pairwise (· < ·) := by
  rw [expiredHeights, List.pairwise_map]
  exact (legible.legibleStates.ascending_states listed).filter _

/-- No expired state is left to be dropped. -/
theorem expiredHeights_pruned (state : ClientState) (states : List (Height × ConsensusState))
    (now : Int) :
    expiredHeights state
      (states.filter fun entry => entry.1 ∉ expiredHeights state states now) now = [] := by
  rw [List.eq_nil_iff_forall_not_mem]
  intro height member
  rcases mem_expiredHeights_iff.1 member with ⟨apart, consensus, remains, expired⟩
  rcases List.mem_filter.1 remains with ⟨listed, kept⟩
  have dropped := mem_expiredHeights_iff.2 ⟨apart, consensus, listed, expired⟩
  simp [dropped] at kept

variable [Signing]

theorem WellKept.accepts_prune (kept : client.WellKept records state)
    (listed : client.consensusStates records = .ok states) (config : Config) (now : Int) :
    client.Accepts records config now .prune
      ⟨.pruned (expiredHeights state states now),
        client.pruneWrites (expiredHeights state states now)⟩ :=
  .prune kept.scalars listed

/-- What is left after the expired states of a client are dropped. -/
theorem WellKept.pruned {store pruned : Store} {now : Int} (kept : client.WellKept records state)
    (listed : client.consensusStates records = .ok states)
    (opened : store.content? = some records)
    (reached : pruned.content? =
      some (records.applyAll (client.pruneWrites (expiredHeights state states now)))) :
    client.Pruned state now (expiredHeights state states now) store pruned where
  exact := by
    intro height
    simp only [Store.read_consensus_iff opened]
    exact kept.toLegible.mem_expiredHeights_iff listed
  ascending := kept.toLegible.ascending_expiredHeights listed now
  remaining := by
    refine ⟨states, ?_, ?_⟩
    · rw [Store.read_eq opened, Query.run, listed]
      rfl
    · rw [Store.read_eq reached, Query.run, kept.toLegible.consensusStates_prune listed]
      rfl
  again := by
    intro config
    have spared : state.latestHeight ∉ expiredHeights state states now :=
      latestHeight_not_mem_expiredHeights states now
    have nothing := (kept.prune spared).accepts_prune
      (kept.toLegible.consensusStates_prune listed) config now
    rw [expiredHeights_pruned] at nothing
    apply Store.submit_of_no_writes reached
    exact Request.run_eq_ok_iff.2 nothing
  sameStatus := by
    intro config later
    rw [(Store.submit_ok reached _).2, (Store.submit_ok opened _).2]
    simp only [Request.run, kept.status_prune (latestHeight_not_mem_expiredHeights states now)]
  sameUpdates := by
    intro config later header
    rw [(Store.submit_ok reached _).2, (Store.submit_ok opened _).2]
    simp only [Request.run, kept.update_prune (latestHeight_not_mem_expiredHeights states now)]
  sameProofs := by
    intro config later height proof key claim passed
    rw [Store.submit_verify_iff reached, Store.submit_verify_iff opened]
    exact kept.verifyClaim_prune listed passed

end ClientId

/-- Start from a store without records of a client, and make any requests, for it or for other
clients. Once the client is installed, pruning it at any time drops the expired states other
than the latest one, in ascending order, and nothing else. A second pruning drops nothing, and
no status, update or proof from then on comes out differently because of the first. -/
theorem pruned_after [Signing] {store : Store} {records content : Records} {client : ClientId}
    {requests : List Request} {state : ClientState} (opened : store.content? = some records)
    (absent : client.Absent records)
    (reached : (store.after requests).content? = some content)
    (installed : client.clientState? content = .ok (some state)) (config : Config) (now : Int) :
    ∃ heights,
      ((store.after requests).submit ⟨client, config, now, .prune⟩).2 =
          .ok (.pruned heights) ∧
        client.Pruned state now heights (store.after requests)
          ((store.after requests).submit ⟨client, config, now, .prune⟩).1 := by
  have current := Store.content?_after opened requests
  rw [current] at reached
  cases reached
  have kept : client.Kept (records.after requests) :=
    ClientId.Kept.after_all (Or.inl absent) requests
  have wellKept := kept.wellKept installed
  rcases wellKept.toLegible.legibleStates.exists_consensusStates with ⟨states, listed⟩
  have accepts := wellKept.accepts_prune listed config now
  have pruned := (Store.submit_ok current ⟨client, config, now, .prune⟩).1
  rw [@Request.effect_of_accepts _ ⟨client, config, now, .prune⟩ _ _ accepts] at pruned
  refine ⟨ClientId.expiredHeights state states now, ?_, wellKept.pruned listed current pruned⟩
  apply (Store.snd_submit_eq_ok_iff current).2
  exact ⟨_, Request.run_eq_ok_iff.2 accepts⟩

attribute [local instance] Signing.standard

/-- At time 20, after the first block, only the state before it is dropped. -/
theorem Sample.prune_after_approving :
    (client.prune (Records.empty.after [installing, approving]) 20).toOption.map
      Accepted.result = some [⟨0, 0⟩] := by
  decide +kernel

/-- A client that has accepted the first block drops the state that it was installed with. -/
theorem pruned_after_sample :
    ∃ state, Sample.client.Pruned state 20 [⟨0, 0⟩]
      ((Store.create .memory).after [Sample.installing, Sample.approving])
      (((Store.create .memory).after [Sample.installing, Sample.approving]).submit
        ⟨Sample.client, .standard, 20, .prune⟩).1 := by
  have opened : (Store.create .memory).content? = some Records.empty := rfl
  have absent : Sample.client.Absent Records.empty := fun _ _ _ => rfl
  have reached := Store.content?_after opened [Sample.installing, Sample.approving]
  rcases Sample.approving_reads with ⟨⟨state, live⟩, -⟩
  have installed := (ClientId.liveState_eq_ok_iff.1 live).1
  rcases pruned_after opened absent reached installed .standard 20 with
    ⟨heights, answered, pruned⟩
  rcases Outcome.exists_of_map Sample.prune_after_approving with ⟨accepted, passed, dropped⟩
  have same : heights = [⟨0, 0⟩] := by
    rw [(Store.submit_ok reached _).2] at answered
    simp only [Request.run, passed, bind, Except.bind, Except.map, dropped, pure, Except.pure,
      Except.ok.injEq, Reply.pruned.injEq] at answered
    exact answered.symm
  rw [same] at pruned
  exact ⟨state, pruned⟩

end Finality
