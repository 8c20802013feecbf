import Finality.Proofs.Client.Custody
import Finality.Proofs.Client.Listing
import Finality.Proofs.Client.Succession

/-!
# The history of a client

The history of an installed client only grows at its end. An accepted header raises the latest
height and moves the latest time on by no more than the clock drift
(`ClientId.WellKept.advances_of_update`), and nothing else moves either of them
(`ClientId.WellKept.stays_of_other`). No call looks whether there is a state at a height already.
That none is written twice comes from the latest height, which bounds all states that are kept
and all that were dropped (`ClientId.Succession.consensusState?_of_le`).
-/

namespace Finality

/-- What an accepted header makes of the scalars of a client: its height is higher, and its time
is not before the last one and not after it by more than the clock drift. -/
structure ClientState.Advances (state next : ClientState) : Prop where
  rises : state.latestHeight < next.latestHeight
  notBefore : state.latestTimestamp ≤ next.latestTimestamp
  withinDrift :
    next.latestTimestamp.toNat ≤ state.latestTimestamp.toNat + state.maxClockDrift.toNat

namespace ClientId

variable [Signing]

/-- A request is an update of a client, and the store accepts it. -/
def AcceptsUpdate (client : ClientId) (store : Store) (request : Request) : Prop :=
  request.client = client ∧ (∃ header, request.call = .update header) ∧
    ∃ reply, (store.submit request).2 = .ok reply

/-- What can become of the history of an installed client from here on. -/
structure KeepsHistory (client : ClientId) (store : Store) (content : Records)
    (state : ClientState) : Prop where
  /-- An accepted update moves the scalars on, and any other request leaves the latest height
  and time alone. No request changes the durations. -/
  moves : ∀ request, ∃ later next,
    (store.submit request).1.content? = some later ∧
      client.clientState? later = .ok (some next) ∧
      next.trustingPeriod = state.trustingPeriod ∧
      next.maxClockDrift = state.maxClockDrift ∧
      (client.AcceptsUpdate store request → state.Advances next) ∧
      (¬client.AcceptsUpdate store request →
        next.latestHeight = state.latestHeight ∧ next.latestTimestamp = state.latestTimestamp)
  /-- A header that is not above the latest height is turned down for that, unless the client
  is frozen. -/
  refuses : ∀ config now header, ¬state.latestHeight < header.height →
    store.submit ⟨client, config, now, .update header⟩ =
      (store, .error (.rejected (match state.frozenHeight with
        | some frozen => .frozen frozen
        | none => .heightNotAbove state.latestHeight header.height)))
  /-- Whatever requests follow, a state that is kept stays as it is until it is dropped. -/
  writtenOnce : ∀ requests height consensus,
    client.consensusState? content height = .ok (some consensus) →
      ∃ later, (store.after requests).content? = some later ∧
        (client.consensusState? later height = .ok none ∨
          client.consensusState? later height = .ok (some consensus))
  /-- Whatever requests follow, there is no state again at a height that was dropped. -/
  staysDropped : ∀ request heights, request.client = client →
    (store.submit request).2 = .ok (.pruned heights) →
      ∀ height ∈ heights, ∀ requests,
        ∃ later, (store.after (request :: requests)).content? = some later ∧
          client.consensusState? later height = .ok none

variable {client : ClientId} {records : Records} {state next : ClientState} {store : Store}

/-! ## Scalars -/

/-- The scalars that an accepted header leaves behind. -/
theorem WellKept.advances {config : Config} {trusted : Snapshot} {header : Header}
    {verified : VerifiedHeader} (kept : client.WellKept records state)
    (known : client.snapshot records state state.latestHeight = .ok trusted)
    (passed : verifyHeader config trusted header = .ok verified) :
    state.Advances (state.advanced verified.height verified.consensusState.timestamp) := by
  rcases snapshot_eq_ok_iff.1 known with ⟨-, consensus, roster, read, -, rfl⟩
  rcases verifyHeader_eq_ok_iff.1 passed with ⟨selection, message, stake, checks, rfl⟩
  rcases kept.latest with ⟨latest, latestRead, timed⟩
  rw [read] at latestRead
  cases latestRead
  rcases checkTimestamp_eq_ok_iff.1 checks.timely with ⟨notBefore, withinDrift⟩
  rw [timed] at notBefore withinDrift
  exact ⟨checks.above, notBefore, withinDrift⟩

theorem WellKept.advances_of_update {config : Config} {now : Int} {header : Header}
    {accepted : Accepted Reply} (kept : client.WellKept records state)
    (accepts : client.Accepts records config now (.update header) accepted)
    (moved : client.clientState? (records.applyAll accepted.writes) = .ok (some next)) :
    state.Advances next := by
  cases accepts with
  | update live known passed bound =>
      rcases liveState_eq_ok_iff.1 live with ⟨read, -⟩
      rw [kept.scalars] at read
      cases read
      rw [clientState?_commit] at moved
      cases moved
      exact kept.advances known passed

/-- Of all calls of an installed client, only updates move the latest height and time. -/
theorem WellKept.stays_of_other {config : Config} {now : Int} {call : Call}
    {accepted : Accepted Reply} (kept : client.WellKept records state)
    (accepts : client.Accepts records config now call accepted)
    (other : ∀ header, call ≠ .update header)
    (moved : client.clientState? (records.applyAll accepted.writes) = .ok (some next)) :
    next.latestHeight = state.latestHeight ∧ next.latestTimestamp = state.latestTimestamp := by
  cases accepts with
  | install fresh live rooted timed =>
      rw [kept.scalars] at fresh
      cases fresh
  | update live known passed bound => exact absurd rfl (other _)
  | misbehaviour live sameClient known proven =>
      rcases liveState_eq_ok_iff.1 live with ⟨read, -⟩
      rw [kept.scalars] at read
      cases read
      rw [clientState?_commit] at moved
      cases moved
      exact ⟨rfl, rfl⟩
  | verify shown =>
      cases kept.scalars.symm.trans moved
      exact ⟨rfl, rfl⟩
  | status asked =>
      cases kept.scalars.symm.trans moved
      exact ⟨rfl, rfl⟩
  | prune read listed =>
      rw [clientState?_prune, kept.scalars] at moved
      cases moved
      exact ⟨rfl, rfl⟩

/-- A request that is no accepted update leaves the latest height and time alone. -/
theorem WellKept.stays_effect {request : Request} (kept : client.WellKept records state)
    (moved : client.clientState? (request.effect records) = .ok (some next))
    (other : ¬(request.client = client ∧ (∃ header, request.call = .update header) ∧
      ∃ accepted, request.run records = .ok accepted)) :
    next.latestHeight = state.latestHeight ∧ next.latestTimestamp = state.latestTimestamp := by
  rcases client.effect_cases request records with same | ⟨rfl, accepted, accepts, changed⟩
  · rw [same.clientState?, kept.scalars] at moved
    cases moved
    exact ⟨rfl, rfl⟩
  · rw [changed] at moved
    refine kept.stays_of_other accepts ?_ moved
    intro header submits
    exact other ⟨rfl, ⟨header, submits⟩, accepted, Request.run_eq_ok_iff.2 accepts⟩

theorem acceptsUpdate_iff {request : Request} (opened : store.content? = some records) :
    client.AcceptsUpdate store request ↔
      request.client = client ∧ (∃ header, request.call = .update header) ∧
        ∃ accepted, request.run records = .ok accepted := by
  refine and_congr_right fun _ => and_congr_right fun _ => ?_
  constructor
  · rintro ⟨reply, answered⟩
    rcases (Store.snd_submit_eq_ok_iff opened).1 answered with ⟨writes, ran⟩
    exact ⟨⟨reply, writes⟩, ran⟩
  · rintro ⟨accepted, ran⟩
    exact ⟨accepted.result, (Store.snd_submit_eq_ok_iff opened).2 ⟨accepted.writes, ran⟩⟩

/-- What one request makes of the scalars. -/
theorem WellKept.moves (kept : client.WellKept records state)
    (opened : store.content? = some records) (request : Request) :
    ∃ later next, (store.submit request).1.content? = some later ∧
      client.clientState? later = .ok (some next) ∧
      next.trustingPeriod = state.trustingPeriod ∧
      next.maxClockDrift = state.maxClockDrift ∧
      (client.AcceptsUpdate store request → state.Advances next) ∧
      (¬client.AcceptsUpdate store request →
        next.latestHeight = state.latestHeight ∧
          next.latestTimestamp = state.latestTimestamp) := by
  rcases kept.succession_effect request with ⟨next, succession⟩
  have moved := succession.kept.scalars
  refine ⟨_, next, (Store.submit_ok opened request).1, moved, succession.samePeriod,
    succession.sameDrift, ?_, ?_⟩
  · intro accepted
    rcases (acceptsUpdate_iff opened).1 accepted with ⟨rfl, ⟨header, submits⟩, accepted, ran⟩
    have accepts := Request.run_eq_ok_iff.1 ran
    rw [Request.effect_of_accepts accepts] at moved
    rw [submits] at accepts
    exact kept.advances_of_update accepts moved
  · intro other
    rw [acceptsUpdate_iff opened] at other
    exact kept.stays_effect moved other

/-- A header that is not above the latest height is not accepted. -/
theorem WellKept.update_of_not_above {config : Config} {header : Header}
    (kept : client.WellKept records state) (below : ¬state.latestHeight < header.height) :
    client.update records config header =
      .error (.rejected (match state.frozenHeight with
        | some frozen => .frozen frozen
        | none => .heightNotAbove state.latestHeight header.height)) := by
  cases frozen : state.frozenHeight with
  | some height =>
      rw [update, liveState_of_frozen kept.scalars frozen]
      rfl
  | none =>
      have live := liveState_eq_ok_iff.2 ⟨kept.scalars, frozen⟩
      rcases kept.exists_snapshot with ⟨trusted, known⟩
      have sameHeight : trusted.height = state.latestHeight := by
        rcases snapshot_eq_ok_iff.1 known with ⟨-, consensus, roster, -, -, rfl⟩
        rfl
      rw [← sameHeight] at below
      simp only [update, bind, Except.bind, live, known, verifyHeader_of_not_above below,
        sameHeight]

/-! ## States -/

/-- There is no state at a height that was just dropped, and it is not above the latest one. -/
theorem WellKept.dropped {request : Request} {heights : List Height} {height : Height}
    {writes : List Write} (kept : client.WellKept records state)
    (own : request.client = client)
    (ran : request.run records = .ok ⟨.pruned heights, writes⟩) (member : height ∈ heights) :
    height ≤ state.latestHeight ∧
      client.consensusState? (request.effect records) height = .ok none := by
  subst own
  have accepts := Request.run_eq_ok_iff.1 ran
  rw [Request.effect_of_accepts accepts]
  generalize request.call = call at accepts
  cases accepts with
  | prune read listed =>
      rcases (kept.toLegible.mem_expiredHeights_iff listed).1 member with
        ⟨-, consensus, found, -⟩
      refine ⟨kept.greatest height consensus found, ?_⟩
      rw [consensusState?_prune, if_pos member]

theorem WellKept.keepsHistory (kept : client.WellKept records state)
    (opened : store.content? = some records) :
    client.KeepsHistory store records state where
  moves := kept.moves opened
  refuses := by
    intro config now header below
    refine Store.submit_error opened ?_
    simp only [Request.run, kept.update_of_not_above below, bind, Except.bind]
  writtenOnce := by
    intro requests height consensus found
    refine ⟨_, Store.content?_after opened requests, ?_⟩
    rcases kept.succession_after requests with ⟨next, succession⟩
    rw [← found]
    exact succession.consensusState?_of_le (kept.greatest height consensus found)
  staysDropped := by
    intro request heights own answered height member requests
    refine ⟨_, Store.content?_after opened (request :: requests), ?_⟩
    rcases (Store.snd_submit_eq_ok_iff opened).1 answered with ⟨writes, ran⟩
    rcases kept.dropped own ran member with ⟨below, dropped⟩
    rcases kept.succession_effect request with ⟨next, first⟩
    rcases first.kept.succession_after requests with ⟨last, second⟩
    rcases second.consensusState?_of_le (Height.le_trans below first.higher) with gone | same
    · exact gone
    · exact same.trans dropped

end ClientId

/-- Start from a store without records of a client, and make any requests, for it or for other
clients. Once the client is installed, its history is kept from there on: an accepted header
raises the latest height, within the clock drift in time, and no other request moves it; a state
that is kept is never replaced by another one, and none is kept again where one was dropped. -/
theorem keepsHistory_after [Signing] {store : Store} {records content : Records} {client : ClientId}
    {requests : List Request} {state : ClientState} (opened : store.content? = some records)
    (absent : client.Absent records)
    (reached : (store.after requests).content? = some content)
    (installed : client.clientState? content = .ok (some state)) :
    client.KeepsHistory (store.after requests) content state := by
  rw [Store.content?_after opened] at reached
  cases reached
  have kept : client.Kept (records.after requests) :=
    ClientId.Kept.after_all (Or.inl absent) requests
  exact (kept.wellKept installed).keepsHistory (Store.content?_after opened requests)

attribute [local instance] Signing.standard

/-- The history of a client is kept from its installation on. -/
theorem keepsHistory_after_sample :
    ∃ content, ((Store.create .memory).after [Sample.installing]).content? = some content ∧
      Sample.client.KeepsHistory ((Store.create .memory).after [Sample.installing]) content
        Sample.trusted.clientState := by
  have opened : (Store.create .memory).content? = some Records.empty := rfl
  have absent : Sample.client.Absent Records.empty := fun _ _ _ => rfl
  have reached := Store.content?_after opened [Sample.installing]
  have installed : Sample.client.clientState? (Records.empty.after [Sample.installing]) =
      .ok (some Sample.trusted.clientState) := by
    rw [Sample.after_installing]
    exact ClientId.clientState?_commit
  exact ⟨_, reached, keepsHistory_after opened absent reached installed⟩

end Finality
