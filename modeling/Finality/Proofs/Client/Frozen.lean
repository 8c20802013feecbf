import Finality.Proofs.Client.Changes
import Finality.Proofs.Client.Forks

/-!
# Frozen clients

Freezing is the end of a client. Every call that needs a live client looks at the frozen height
first, so it is turned down with this height whatever else is wrong with it, and the scalars are
never written again (`ClientId.get?_stateKey_effect_of_frozen`). What remains is to ask for the
status and to drop expired states (`ClientId.Terminal`). Only proven misbehaviour freezes a
client, and it answers with the frozen height (`ClientId.freezing_step`).
-/

namespace Finality

/-- Whether a call is made of a live client only. -/
def Call.needsLive : Call → Bool
  | .update _ | .misbehaviour _ | .verify .. => true
  | .install .. | .status | .prune => false

namespace ClientId

variable [Signing]

/-- What a client that is frozen at a height answers on a store, and what requests still change
of its records. -/
structure Terminal (client : ClientId) (store : Store) (content : Records) (state : ClientState)
    (height : Height) : Prop where
  /-- Headers, misbehaviour and proofs are turned down with the frozen height. -/
  refuses : ∀ config now call, call.needsLive = true →
    store.submit ⟨client, config, now, call⟩ = (store, .error (.rejected (.frozen height)))
  /-- The client cannot be installed again. -/
  installed : ∀ config now first consensus roster,
    store.submit ⟨client, config, now, .install first consensus roster⟩ =
      (store, .error (.rejected (.clientExists client.text)))
  /-- The status is the same at all times. -/
  status : ∀ config now,
    store.submit ⟨client, config, now, .status⟩ = (store, .ok (.status .frozen))
  /-- Pruning drops the expired states other than the latest one, and nothing else. -/
  prunes : ∀ config now, ∃ heights later,
    (store.submit ⟨client, config, now, .prune⟩).2 = .ok (.pruned heights) ∧
      (store.submit ⟨client, config, now, .prune⟩).1.content? = some later ∧
      content.Becomes later (heights.map fun known => (client.heightKey known, none)) ∧
      ∀ known, known ∈ heights ↔ known ≠ state.latestHeight ∧ ∃ consensus,
        client.consensusState? content known = .ok (some consensus) ∧
          consensus.isExpired now state.trustingPeriod = true
  /-- No request of another client changes a record of this one. -/
  others : ∀ request, request.client ≠ client →
    ∃ later, (store.submit request).1.content? = some later ∧
      client.SameRecords later content

variable {client : ClientId} {records : Records} {state : ClientState} {height : Height}
  {store : Store}

/-! ## What a frozen client answers -/

theorem run_of_frozen {config : Config} {now : Int} {call : Call}
    (read : client.clientState? records = .ok (some state))
    (frozen : state.frozenHeight = some height) (needsLive : call.needsLive = true) :
    Request.run ⟨client, config, now, call⟩ records = .error (.rejected (.frozen height)) := by
  have notLive := liveState_of_frozen read frozen
  cases call with
  | update header => simp only [Request.run, update, bind, Except.bind, notLive]
  | misbehaviour misbehaviour =>
      simp only [Request.run, checkMisbehaviour, bind, Except.bind, notLive]
  | verify known proof key claim =>
      simp only [Request.run, verifyClaim, bind, Except.bind, notLive]
  | install first consensus roster => cases needsLive
  | status => cases needsLive
  | prune => cases needsLive

theorem run_install_of_installed {config : Config} {now : Int} {first : ClientState}
    {consensus : ConsensusState} {roster : Roster}
    (read : client.clientState? records = .ok (some state)) :
    Request.run ⟨client, config, now, .install first consensus roster⟩ records =
      .error (.rejected (.clientExists client.text)) := by
  simp only [Request.run, install, bind, Except.bind, read]
  rfl

theorem run_status_of_frozen {config : Config} {now : Int}
    (read : client.clientState? records = .ok (some state))
    (frozen : state.frozenHeight = some height) :
    Request.run ⟨client, config, now, .status⟩ records = .ok ⟨.status .frozen, []⟩ := by
  have isFrozen : state.isFrozen = true := by
    rw [ClientState.isFrozen, frozen]
    rfl
  simp only [Request.run, ClientId.status, bind, Except.bind, clientState_eq_ok_iff.2 read,
    isFrozen]
  rfl

theorem WellKept.terminal (kept : client.WellKept records state)
    (frozen : state.frozenHeight = some height) (opened : store.content? = some records) :
    client.Terminal store records state height where
  refuses := by
    intro config now call needsLive
    exact Store.submit_error opened (run_of_frozen kept.scalars frozen needsLive)
  installed := by
    intro config now first consensus roster
    exact Store.submit_error opened (run_install_of_installed kept.scalars)
  status := by
    intro config now
    exact Store.submit_of_no_writes opened (run_status_of_frozen kept.scalars frozen)
  prunes := by
    intro config now
    rcases kept.toLegible.legibleStates.exists_consensusStates with ⟨states, listed⟩
    have accepts : client.Accepts records config now .prune
        ⟨.pruned (expiredHeights state states now),
          client.pruneWrites (expiredHeights state states now)⟩ := .prune kept.scalars listed
    rcases Store.submit_ok opened ⟨client, config, now, .prune⟩ with ⟨content, answer⟩
    rw [@Request.effect_of_accepts _ ⟨client, config, now, .prune⟩ _ _ accepts] at content
    rw [@Request.run_eq_ok_iff _ ⟨client, config, now, .prune⟩ _ _ |>.2 accepts] at answer
    exact ⟨_, _, answer, content, becomes_prune _,
      fun known => kept.toLegible.mem_expiredHeights_iff listed⟩
  others := by
    intro request other
    exact ⟨_, (Store.submit_ok opened request).1, sameRecords_effect other⟩

/-! ## Frozen for good -/

/-- No request writes the scalars of a frozen client. -/
theorem get?_stateKey_effect_of_frozen (request : Request)
    (read : client.clientState? records = .ok (some state))
    (frozen : state.frozenHeight = some height) :
    (request.effect records).get? client.stateKey = records.get? client.stateKey := by
  rcases client.effect_cases request records with same | ⟨rfl, accepted, accepts, changed⟩
  · exact same _ _
  · have notLive : ∀ live, request.client.liveState records ≠ .ok live := by
      intro live given
      rw [liveState_of_frozen read frozen] at given
      cases given
    rw [changed]
    generalize request.call = call at accepts
    cases accepts with
    | install fresh live rooted timed =>
        rw [read] at fresh
        cases fresh
    | update live known passed bound => exact absurd live (notLive _)
    | misbehaviour live sameClient known proven => exact absurd live (notLive _)
    | verify shown => rfl
    | status asked => rfl
    | prune read listed =>
        exact get?_prune_of_ne fun equal => absurd equal Keyspace.clients_ne_states

theorem get?_stateKey_after_of_frozen (requests : List Request)
    (read : client.clientState? records = .ok (some state))
    (frozen : state.frozenHeight = some height) :
    (records.after requests).get? client.stateKey = records.get? client.stateKey := by
  refine Records.after_keeps
    (fun current => current.get? client.stateKey = records.get? client.stateKey) ?_ rfl requests
  intro current request same
  have stillRead : client.clientState? current = .ok (some state) :=
    (readRecord?_congr same).trans read
  exact (get?_stateKey_effect_of_frozen request stillRead frozen).trans same

/-! ## What freezes a client -/

/-- If a client is frozen after a request, then it was frozen before, or the request is of this
client, submits misbehaviour and is answered with the frozen height. -/
theorem freezing_step (request : Request)
    (read : client.clientState? (request.effect records) = .ok (some state))
    (frozen : state.frozenHeight = some height) :
    client.clientState? records = .ok (some state) ∨
      request.client = client ∧ (∃ before, client.liveState records = .ok before) ∧
        ∃ misbehaviour, request.call = .misbehaviour misbehaviour ∧
          ∃ writes, request.run records = .ok ⟨.frozenAt height, writes⟩ := by
  rcases client.effect_cases request records with same | ⟨rfl, accepted, accepts, changed⟩
  · rw [same.clientState?] at read
    exact Or.inl read
  · have ran := Request.run_eq_ok_iff.2 accepts
    rw [changed] at read
    generalize request.call = call at accepts
    cases accepts with
    | install fresh live rooted timed =>
        rw [clientState?_commit] at read
        cases read
        rw [live] at frozen
        cases frozen
    | update live known passed bound =>
        rw [clientState?_commit] at read
        cases read
        have notFrozen := (liveState_eq_ok_iff.1 live).2
        rw [ClientState.advanced, notFrozen] at frozen
        cases frozen
    | misbehaviour live sameClient known proven =>
        rw [clientState?_commit] at read
        cases read
        cases frozen
        exact Or.inr ⟨rfl, ⟨_, live⟩, _, rfl, _, ran⟩
    | verify shown => exact Or.inl read
    | status asked => exact Or.inl read
    | prune known listed =>
        rw [clientState?_prune] at read
        exact Or.inl read

/-- A client that is frozen after a run was frozen by a request in it. -/
theorem exists_freezing (absent : client.Absent records) {requests : List Request}
    (read : client.clientState? (records.after requests) = .ok (some state))
    (frozen : state.frozenHeight = some height) :
    ∃ earlier request later, requests = earlier ++ request :: later ∧
      request.client = client ∧
      (∃ before, client.liveState (records.after earlier) = .ok before) ∧
      ∃ misbehaviour, request.call = .misbehaviour misbehaviour ∧
        ∃ writes, request.run (records.after earlier) = .ok ⟨.frozenAt height, writes⟩ := by
  induction requests using List.reverseRecOn with
  | nil =>
      have missing : client.clientState? records = .ok none :=
        readRecord?_of_missing (absent _ (by simp) _)
      rw [show records.after [] = records from rfl, missing] at read
      cases read
  | append_singleton requests request ih =>
      rw [Records.after, List.foldl_append] at read
      rcases freezing_step request read frozen with earlierRead | ⟨own, live, freezes⟩
      · rcases ih earlierRead with ⟨earlier, freezing, later, rfl, found⟩
        exact ⟨earlier, freezing, later ++ [request], by simp, found⟩
      · exact ⟨requests, request, [], rfl, own, live, freezes⟩

end ClientId

/-- Start from a store without records of a client, make any requests, and suppose that the
client is frozen at a height then. Whatever requests follow, for it or for other clients, its
scalars stay as they are to the byte, and it answers every call as a frozen client does. And
among the requests before there is one for the client that submitted misbehaviour while it was
live, and that was answered with the height. -/
theorem frozen_is_terminal [Signing] {store : Store} {records content : Records} {client : ClientId}
    {requests : List Request} {state : ClientState} {height : Height}
    (opened : store.content? = some records) (absent : client.Absent records)
    (reached : (store.after requests).content? = some content)
    (read : client.clientState? content = .ok (some state))
    (frozen : state.frozenHeight = some height) :
    (∀ more, ∃ later, (store.after (requests ++ more)).content? = some later ∧
      later.get? client.stateKey = content.get? client.stateKey ∧
      client.Terminal (store.after (requests ++ more)) later state height) ∧
    ∃ earlier request rest before misbehaviour, requests = earlier ++ request :: rest ∧
      request.client = client ∧ request.call = .misbehaviour misbehaviour ∧
      ((store.after earlier).content? = some before ∧
        ∃ live, client.liveState before = .ok live) ∧
      ((store.after earlier).submit request).2 = .ok (.frozenAt height) := by
  rw [Store.content?_after opened] at reached
  cases reached
  constructor
  · intro more
    have content := Store.content?_after opened (requests ++ more)
    have split : records.after (requests ++ more) = (records.after requests).after more :=
      List.foldl_append
    have same := ClientId.get?_stateKey_after_of_frozen more read frozen
    rw [← split] at same
    have stillRead : client.clientState? (records.after (requests ++ more)) = .ok (some state) :=
      (ClientId.readRecord?_congr same).trans read
    have kept : client.Kept (records.after (requests ++ more)) :=
      ClientId.Kept.after_all (Or.inl absent) _
    exact ⟨_, content, same, (kept.wellKept stillRead).terminal frozen content⟩
  · rcases ClientId.exists_freezing absent read frozen with
      ⟨earlier, request, rest, split, own, live, misbehaviour, submits, writes, ran⟩
    have content := Store.content?_after opened earlier
    have answered := (Store.snd_submit_eq_ok_iff content).2 ⟨writes, ran⟩
    exact ⟨earlier, request, rest, _, misbehaviour, split, own, submits, ⟨content, live⟩, answered⟩

attribute [local instance] Signing.standard

namespace Sample

/-- Submit two versions of the first block. -/
def freezing : Request :=
  ⟨client, .standard, 0, .misbehaviour ⟨client.text, ⟨0, 0⟩, approved, rival⟩⟩

theorem clientState?_after_freezing :
    client.clientState? (Records.empty.after [installing, freezing]) =
      .ok (some (trusted.clientState.frozen ⟨0, 1⟩)) := by
  have live : client.liveState (Records.empty.after [installing]) = .ok trusted.clientState :=
    ClientId.liveState_eq_ok_iff.2 ⟨fork.installed, rfl⟩
  rcases fork.exists_trusted with ⟨snapshot, known⟩
  have sameScalars : { snapshot with clientState := trusted.clientState } = snapshot := by
    rcases ClientId.snapshot_eq_ok_iff.1 known with ⟨-, consensus, roster, -, -, rfl⟩
    rfl
  have passed := fork.checkMisbehaviour known live rfl (by rw [sameScalars]; exact known)
  have ran : freezing.run (Records.empty.after [installing]) =
      .ok ⟨.frozenAt ⟨0, 1⟩,
        client.commitWrites (trusted.clientState.frozen ⟨0, 1⟩) none none⟩ :=
    Outcome.bind_eq_ok_iff.2 ⟨_, passed, rfl⟩
  have after : Records.empty.after [installing, freezing] =
      freezing.effect (Records.empty.after [installing]) := by
    simp only [Records.after, List.foldl_cons, List.foldl_nil]
  rw [after, Request.effect_of_accepts (Request.run_eq_ok_iff.1 ran)]
  exact ClientId.clientState?_commit

end Sample

/-- A client that was frozen by two versions of the first block takes neither of them. -/
theorem frozen_is_terminal_sample :
    ∃ later, ((Store.create .memory).after
        [Sample.installing, Sample.freezing, Sample.approving]).content? = some later ∧
      Sample.client.Terminal ((Store.create .memory).after
          [Sample.installing, Sample.freezing, Sample.approving]) later
        (Sample.trusted.clientState.frozen ⟨0, 1⟩) ⟨0, 1⟩ := by
  have opened : (Store.create .memory).content? = some Records.empty := rfl
  have absent : Sample.client.Absent Records.empty := fun _ _ _ => rfl
  have reached := Store.content?_after opened [Sample.installing, Sample.freezing]
  rcases (frozen_is_terminal opened absent reached Sample.clientState?_after_freezing rfl).1
    [Sample.approving] with ⟨later, content, -, terminal⟩
  exact ⟨later, content, terminal⟩

end Finality
