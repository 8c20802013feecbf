import Finality.Client.Host
import Finality.Proofs.Outcome

/-!
# When a call is accepted

`ClientId.Accepts` lists what a call of each kind needs to be accepted, and what it then
answers and writes. `Request.run_eq_ok_iff` says that nothing else is ever accepted, so
a property of all calls is proved by going through the cases of `ClientId.Accepts`.
-/

namespace Finality

namespace ClientId

variable {client : ClientId} {records : Records}

/-! ## Steps that the calls share -/

theorem clientState_eq_ok_iff {state : ClientState} :
    client.clientState records = .ok state ↔
      client.clientState? records = .ok (some state) := by
  rw [clientState, Outcome.bind_eq_ok_iff]
  constructor
  · intro given
    rcases given with ⟨found, read, answered⟩
    cases found with
    | none => cases answered
    | some other =>
        cases answered
        exact read
  · intro read
    exact ⟨some state, read, rfl⟩

theorem liveState_eq_ok_iff {state : ClientState} :
    client.liveState records = .ok state ↔
      client.clientState? records = .ok (some state) ∧ state.frozenHeight = none := by
  rw [liveState, Outcome.bind_eq_ok_iff]
  constructor
  · intro given
    rcases given with ⟨found, read, answered⟩
    cases frozen : found.frozenHeight with
    | some height =>
        rw [frozen] at answered
        cases answered
    | none =>
        rw [frozen] at answered
        cases answered
        exact ⟨clientState_eq_ok_iff.1 read, frozen⟩
  · intro given
    rcases given with ⟨read, live⟩
    refine ⟨state, clientState_eq_ok_iff.2 read, ?_⟩
    rw [live]
    rfl

/-- A client that is frozen is turned down for that where it has to be live. -/
theorem liveState_of_frozen {state : ClientState} {height : Height}
    (read : client.clientState? records = .ok (some state))
    (frozen : state.frozenHeight = some height) :
    client.liveState records = .error (.rejected (.frozen height)) := by
  rw [liveState, clientState_eq_ok_iff.2 read]
  simp only [bind, Except.bind, frozen]
  rfl

theorem snapshot_eq_ok_iff {state : ClientState} {height : Height} {trusted : Snapshot} :
    client.snapshot records state height = .ok trusted ↔
      ¬state.latestHeight < height ∧ ∃ consensus roster,
        client.consensusState? records height = .ok (some consensus) ∧
          client.roster? records consensus.epochId.bytes = .ok (some roster) ∧
          trusted = ⟨state, height, consensus, roster⟩ := by
  rw [snapshot, Outcome.guard_eq_ok_iff, Outcome.bind_eq_ok_iff]
  refine and_congr_right fun _ => ?_
  constructor
  · intro given
    rcases given with ⟨consensus, read, answered⟩
    cases consensus with
    | none => cases answered
    | some consensus =>
        rcases Outcome.bind_eq_ok_iff.1 answered with ⟨roster, registered, answered⟩
        cases roster with
        | none => cases answered
        | some roster =>
            cases answered
            exact ⟨consensus, roster, read, registered, rfl⟩
  · intro given
    rcases given with ⟨consensus, roster, read, registered, rfl⟩
    refine ⟨some consensus, read, Outcome.bind_eq_ok_iff.2 ⟨some roster, registered, rfl⟩⟩

/-! ## Calls -/

theorem install_eq_ok_iff {state : ClientState} {consensus : ConsensusState}
    {roster : Roster} {accepted : Accepted Unit} :
    client.install records state consensus roster = .ok accepted ↔
      client.clientState? records = .ok none ∧ state.frozenHeight = none ∧
        consensus.stateRoot ≠ Hash.zero ∧ consensus.timestamp = state.latestTimestamp ∧
        accepted = ⟨(), client.commitWrites state (some (state.latestHeight, consensus))
          (some (consensus.epochId.bytes, roster))⟩ := by
  rw [install, Outcome.bind_eq_ok_iff]
  constructor
  · intro given
    rcases given with ⟨found, read, passed⟩
    rw [Outcome.guard_eq_ok_iff] at passed
    rcases passed with ⟨fresh, passed⟩
    cases found with
    | some other => exact absurd rfl fresh
    | none =>
        cases frozen : state.frozenHeight with
        | some height =>
            rw [frozen] at passed
            cases passed
        | none =>
            simp only [frozen, Outcome.guard_eq_ok_iff, ne_eq, Decidable.not_not] at passed
            rcases passed with ⟨rooted, timed, answered⟩
            cases answered
            exact ⟨read, rfl, rooted, timed, rfl⟩
  · intro given
    rcases given with ⟨read, live, rooted, timed, rfl⟩
    refine ⟨none, read, Outcome.guard_eq_ok_iff.2 ⟨by simp, ?_⟩⟩
    simp only [live, Outcome.guard_eq_ok_iff, ne_eq, Decidable.not_not]
    exact ⟨rooted, timed, rfl⟩

theorem update_eq_ok_iff [Signing] {config : Config} {header : Header}
    {accepted : Accepted ConsensusState} :
    client.update records config header = .ok accepted ↔
      ∃ state trusted verified, client.liveState records = .ok state ∧
        client.snapshot records state state.latestHeight = .ok trusted ∧
        verifyHeader config trusted header = .ok verified ∧
        client.checkEpoch records verified = .ok () ∧
        accepted = ⟨verified.consensusState,
          client.commitWrites
            (state.advanced verified.height verified.consensusState.timestamp)
            (some (verified.height, verified.consensusState))
            (verified.newEpoch.map fun entry => (entry.1.bytes, entry.2))⟩ := by
  simp only [update, Outcome.bind_eq_ok_iff]
  constructor
  · intro given
    rcases given with ⟨state, live, trusted, known, verified, passed, ⟨⟩, bound, answered⟩
    cases answered
    exact ⟨state, trusted, verified, live, known, passed, bound, rfl⟩
  · intro given
    rcases given with ⟨state, trusted, verified, live, known, passed, bound, rfl⟩
    exact ⟨state, live, trusted, known, verified, passed, (), bound, rfl⟩

theorem checkMisbehaviour_eq_ok_iff [Signing] {config : Config} {misbehaviour : Misbehaviour}
    {accepted : Accepted Height} :
    client.checkMisbehaviour records config misbehaviour = .ok accepted ↔
      ∃ state trusted evidence, client.liveState records = .ok state ∧
        misbehaviour.clientId = client.text ∧
        client.snapshot records state misbehaviour.trustedHeight = .ok trusted ∧
        detect config trusted misbehaviour = .ok evidence ∧
        accepted = ⟨evidence.freezeHeight,
          client.commitWrites (state.frozen evidence.freezeHeight) none none⟩ := by
  simp only [checkMisbehaviour, Outcome.bind_eq_ok_iff, Outcome.guard_eq_ok_iff, ne_eq,
    Decidable.not_not]
  constructor
  · intro given
    rcases given with ⟨state, live, sameClient, trusted, known, evidence, proven, answered⟩
    cases answered
    exact ⟨state, trusted, evidence, live, sameClient, known, proven, rfl⟩
  · intro given
    rcases given with ⟨state, trusted, evidence, live, sameClient, known, proven, rfl⟩
    exact ⟨state, live, sameClient, trusted, known, evidence, proven, rfl⟩

theorem verifyClaim_eq_ok_iff {config : Config} {height : Height} {proof : Proof}
    {key : Bytes} {claim : Claim} {now : Int} :
    client.verifyClaim records config height proof key claim now = .ok () ↔
      ∃ state consensus, client.liveState records = .ok state ∧
        ¬state.latestHeight < height ∧
        client.consensusState? records height = .ok (some consensus) ∧
        verifyAgainst config state consensus proof key claim now = .ok () := by
  simp only [verifyClaim, Outcome.bind_eq_ok_iff, Outcome.guard_eq_ok_iff]
  constructor
  · intro given
    rcases given with ⟨state, live, reached, found, read, passed⟩
    cases found with
    | none => cases passed
    | some consensus =>
        exact ⟨state, consensus, live, reached, read, Outcome.orReject_eq_ok_iff.1 passed⟩
  · intro given
    rcases given with ⟨state, consensus, live, reached, read, passed⟩
    exact ⟨state, live, reached, some consensus, read, Outcome.orReject_eq_ok_iff.2 passed⟩

/-- The heights that are dropped at a time: those of expired states, but not the latest. -/
def expiredHeights (state : ClientState) (states : List (Height × ConsensusState))
    (now : Int) : List Height :=
  (states.filter fun entry => entry.1 ≠ state.latestHeight &&
    entry.2.isExpired now state.trustingPeriod).map (·.1)

theorem prune_eq_ok_iff {now : Int} {accepted : Accepted (List Height)} :
    client.prune records now = .ok accepted ↔
      ∃ state states, client.clientState? records = .ok (some state) ∧
        client.consensusStates records = .ok states ∧
        accepted = ⟨expiredHeights state states now,
          client.pruneWrites (expiredHeights state states now)⟩ := by
  simp only [prune, Outcome.bind_eq_ok_iff, clientState_eq_ok_iff]
  constructor
  · intro given
    rcases given with ⟨state, read, states, listed, answered⟩
    cases answered
    exact ⟨state, states, read, listed, rfl⟩
  · intro given
    rcases given with ⟨state, states, read, listed, rfl⟩
    exact ⟨state, read, states, listed, rfl⟩

/-! ## All calls -/

/-- What a call needs to be accepted, and what it then answers and writes. -/
inductive Accepts [Signing] (client : ClientId) (records : Records) (config : Config) (now : Int) :
    Call → Accepted Reply → Prop where
  | install {state : ClientState} {consensus : ConsensusState} {roster : Roster}
      (fresh : client.clientState? records = .ok none) (live : state.frozenHeight = none)
      (rooted : consensus.stateRoot ≠ Hash.zero)
      (timed : consensus.timestamp = state.latestTimestamp) :
      Accepts client records config now (.install state consensus roster)
        ⟨.done, client.commitWrites state (some (state.latestHeight, consensus))
          (some (consensus.epochId.bytes, roster))⟩
  | update {state : ClientState} {trusted : Snapshot} {header : Header}
      {verified : VerifiedHeader} (live : client.liveState records = .ok state)
      (known : client.snapshot records state state.latestHeight = .ok trusted)
      (passed : verifyHeader config trusted header = .ok verified)
      (bound : client.checkEpoch records verified = .ok ()) :
      Accepts client records config now (.update header)
        ⟨.state verified.consensusState,
          client.commitWrites
            (state.advanced verified.height verified.consensusState.timestamp)
            (some (verified.height, verified.consensusState))
            (verified.newEpoch.map fun entry => (entry.1.bytes, entry.2))⟩
  | misbehaviour {state : ClientState} {trusted : Snapshot} {misbehaviour : Misbehaviour}
      {evidence : Evidence} (live : client.liveState records = .ok state)
      (sameClient : misbehaviour.clientId = client.text)
      (known : client.snapshot records state misbehaviour.trustedHeight = .ok trusted)
      (proven : detect config trusted misbehaviour = .ok evidence) :
      Accepts client records config now (.misbehaviour misbehaviour)
        ⟨.frozenAt evidence.freezeHeight,
          client.commitWrites (state.frozen evidence.freezeHeight) none none⟩
  | verify {height : Height} {proof : Proof} {key : Bytes} {claim : Claim}
      (shown : client.verifyClaim records config height proof key claim now = .ok ()) :
      Accepts client records config now (.verify height proof key claim) ⟨.done, []⟩
  | status {status : Status} (asked : client.status records now = .ok status) :
      Accepts client records config now .status ⟨.status status, []⟩
  | prune {state : ClientState} {states : List (Height × ConsensusState)}
      (read : client.clientState? records = .ok (some state))
      (listed : client.consensusStates records = .ok states) :
      Accepts client records config now .prune
        ⟨.pruned (expiredHeights state states now),
          client.pruneWrites (expiredHeights state states now)⟩

end ClientId

variable [Signing]

/-- A request is accepted exactly if its call is, and with the same answer and writes. -/
theorem Request.run_eq_ok_iff {request : Request} {records : Records}
    {accepted : Accepted Reply} :
    request.run records = .ok accepted ↔
      request.client.Accepts records request.config request.now request.call accepted := by
  rcases request with ⟨client, config, now, call⟩
  constructor
  · intro ran
    cases call with
    | install state consensus roster =>
        rcases Outcome.bind_eq_ok_iff.1 ran with ⟨other, passed, answered⟩
        rcases ClientId.install_eq_ok_iff.1 passed with ⟨fresh, live, rooted, timed, rfl⟩
        cases answered
        exact .install fresh live rooted timed
    | update header =>
        rcases Outcome.bind_eq_ok_iff.1 ran with ⟨other, passed, answered⟩
        obtain ⟨state, trusted, verified, live, known, verifies, bound, rfl⟩ :=
          ClientId.update_eq_ok_iff.1 passed
        cases answered
        exact .update live known verifies bound
    | misbehaviour misbehaviour =>
        rcases Outcome.bind_eq_ok_iff.1 ran with ⟨other, passed, answered⟩
        obtain ⟨state, trusted, evidence, live, sameClient, known, proven, rfl⟩ :=
          ClientId.checkMisbehaviour_eq_ok_iff.1 passed
        cases answered
        exact .misbehaviour live sameClient known proven
    | verify height proof key claim =>
        rcases Outcome.bind_eq_ok_iff.1 ran with ⟨⟨⟩, shown, answered⟩
        cases answered
        exact .verify shown
    | status =>
        rcases Outcome.bind_eq_ok_iff.1 ran with ⟨status, asked, answered⟩
        cases answered
        exact .status asked
    | prune =>
        rcases Outcome.bind_eq_ok_iff.1 ran with ⟨other, passed, answered⟩
        rcases ClientId.prune_eq_ok_iff.1 passed with ⟨state, states, read, listed, rfl⟩
        cases answered
        exact .prune read listed
  · intro accepts
    cases accepts with
    | install fresh live rooted timed =>
        exact Outcome.bind_eq_ok_iff.2
          ⟨_, ClientId.install_eq_ok_iff.2 ⟨fresh, live, rooted, timed, rfl⟩, rfl⟩
    | update live known verifies bound =>
        exact Outcome.bind_eq_ok_iff.2
          ⟨_, ClientId.update_eq_ok_iff.2 ⟨_, _, _, live, known, verifies, bound, rfl⟩, rfl⟩
    | misbehaviour live sameClient known proven =>
        exact Outcome.bind_eq_ok_iff.2
          ⟨_, ClientId.checkMisbehaviour_eq_ok_iff.2
            ⟨_, _, _, live, sameClient, known, proven, rfl⟩, rfl⟩
    | verify shown => exact Outcome.bind_eq_ok_iff.2 ⟨(), shown, rfl⟩
    | status asked => exact Outcome.bind_eq_ok_iff.2 ⟨_, asked, rfl⟩
    | prune read listed =>
        exact Outcome.bind_eq_ok_iff.2
          ⟨_, ClientId.prune_eq_ok_iff.2 ⟨_, _, read, listed, rfl⟩, rfl⟩

theorem Request.effect_of_accepts {request : Request} {records : Records}
    {accepted : Accepted Reply}
    (accepts : request.client.Accepts records request.config request.now request.call accepted) :
    request.effect records = records.applyAll accepted.writes := by
  rw [Request.effect, Request.run_eq_ok_iff.2 accepts]

/-- Installing a client puts down its state and the roster of the state's epoch. -/
theorem Request.effect_install {client : ClientId} {config : Config} {now : Int}
    {state : ClientState} {consensus : ConsensusState} {roster : Roster} {records : Records}
    (fresh : client.clientState? records = .ok none) (live : state.frozenHeight = none)
    (rooted : consensus.stateRoot ≠ Hash.zero)
    (timed : consensus.timestamp = state.latestTimestamp) :
    Request.effect ⟨client, config, now, .install state consensus roster⟩ records =
      records.applyAll (client.commitWrites state (some (state.latestHeight, consensus))
        (some (consensus.epochId.bytes, roster))) := by
  rw [Request.effect, Request.run_eq_ok_iff.2 (.install fresh live rooted timed)]

/-- A request that is not accepted leaves the records alone, and one that is accepted makes
its writes. -/
theorem Request.effect_cases (request : Request) (records : Records) :
    request.effect records = records ∨
      ∃ accepted,
        request.client.Accepts records request.config request.now request.call accepted ∧
          request.effect records = records.applyAll accepted.writes := by
  rw [Request.effect]
  cases ran : request.run records with
  | error failure => exact Or.inl rfl
  | ok accepted => exact Or.inr ⟨accepted, Request.run_eq_ok_iff.1 ran, rfl⟩

end Finality
