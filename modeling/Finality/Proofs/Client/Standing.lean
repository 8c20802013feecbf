import Finality.Proofs.Client.Claims
import Finality.Proofs.Client.History

/-!
# The status of a client and what it tells

The status of a client and the verification of a claim at its latest height read the same
records on two ways of their own. The state at the latest height is always there and has the
latest time, so the status depends on the scalars alone (`ClientId.WellKept.status_eq`), and each
status belongs to one kind of answer (`StatusAgrees`).

A request that is no accepted update leaves the latest time and the trusting period alone, and so
does a run of such requests (`ClientId.WellKept.idle_after`). So a client that is expired can only
become active again by an update.
-/

namespace Finality

/-- A call is turned down, and the rejection is reported under a reason. -/
def Outcome.RefusedFor {α : Type} (reason : Reason) (answer : Outcome α) : Prop :=
  ∃ rejection, answer = .error (.rejected rejection) ∧ rejection.report.reason = reason

/-- A status tells how a claim about the latest state is answered: for the status itself, unless
the client is active, and then as its proof is. -/
structure StatusAgrees (status : Status) (answer proofAnswer : Outcome Reply) : Prop where
  frozen : status = .frozen ↔ Outcome.RefusedFor .clientFrozen answer
  expired : status = .expired ↔ Outcome.RefusedFor .expiredConsensusState answer
  active : status = .active ↔ answer = proofAnswer

namespace ClientId

variable [Signing]

/-- No request is an update of a client that is accepted when its turn comes. -/
def Idle (client : ClientId) : Store → List Request → Prop
  | _, [] => True
  | store, request :: requests =>
    ¬client.AcceptsUpdate store request ∧ client.Idle (store.submit request).1 requests

/-- What the status of an installed client tells, now and later. -/
structure StatusTells (client : ClientId) (store : Store) (content : Records)
    (state : ClientState) : Prop where
  /-- There is a state at the latest height. -/
  stored : ∃ consensus, client.consensusState? content state.latestHeight = .ok (some consensus)
  /-- At all times the client has a status, and it agrees with how a claim about the latest state
  is answered and with how its proof is verified under the root of this state. -/
  agrees : ∀ consensus,
    client.consensusState? content state.latestHeight = .ok (some consensus) →
      ∀ config now proof key value, ∃ status,
        (store.submit ⟨client, config, now, .status⟩).2 = .ok (.status status) ∧
          StatusAgrees status
            (store.submit
              ⟨client, config, now, .membership state.latestHeight proof key value⟩).2
            ((orReject (verifyProof consensus.stateRoot.bytes proof key (.ofOption value)
              (some config.limits.maxProofDepth))).map fun _ => .done)
  /-- A client that is expired is not active at any later time, whatever requests are made in
  between, as long as no update is accepted. -/
  lapses : ∀ config now, (store.submit ⟨client, config, now, .status⟩).2 =
      .ok (.status .expired) →
    ∀ requests, client.Idle store requests → ∀ other later, now ≤ later → ∃ status,
      ((store.after requests).submit ⟨client, other, later, .status⟩).2 =
          .ok (.status status) ∧
        status ≠ .active

end ClientId

/-! ## The scalars -/

namespace ClientState

/-- What a client can be used for at a time, as far as its scalars tell. -/
def standing (state : ClientState) (now : Int) : Status :=
  if state.isFrozen then .frozen
  else if (state.trustingPeriod.toNat : Int) < now - state.latestTimestamp.toNat then .expired
  else .active

variable {state : ClientState} {now : Int}

theorem standing_eq_frozen_iff :
    state.standing now = .frozen ↔ ∃ height, state.frozenHeight = some height := by
  rw [standing, isFrozen]
  cases state.frozenHeight with
  | some height => simp
  | none => simp [ite_eq_iff]

theorem standing_eq_expired_iff :
    state.standing now = .expired ↔ state.frozenHeight = none ∧
      (state.trustingPeriod.toNat : Int) < now - state.latestTimestamp.toNat := by
  rw [standing, isFrozen]
  cases state.frozenHeight with
  | some height => simp
  | none => simp [lt_sub_iff_add_lt]

theorem standing_eq_active_iff :
    state.standing now = .active ↔ state.frozenHeight = none ∧
      now - state.latestTimestamp.toNat ≤ state.trustingPeriod.toNat := by
  rw [standing, isFrozen]
  cases state.frozenHeight with
  | some height => simp
  | none => simp

/-- An expired client stays expired, unless it is frozen, as long as its latest time and its
trusting period stay as they are. -/
theorem standing_ne_active {next : ClientState} {later : Int}
    (expired : state.standing now = .expired)
    (sameTime : next.latestTimestamp = state.latestTimestamp)
    (samePeriod : next.trustingPeriod = state.trustingPeriod) (passed : now ≤ later) :
    next.standing later ≠ .active := by
  intro active
  have late := (standing_eq_expired_iff.1 expired).2
  have trusted := (standing_eq_active_iff.1 active).2
  rw [sameTime, samePeriod] at trusted
  omega

end ClientState

/-! ## The status -/

theorem Store.submit_status [Signing] {store : Store} {records : Records} {client : ClientId}
    {config : Config} {now : Int} (opened : store.content? = some records) :
    (store.submit ⟨client, config, now, .status⟩).2 =
      (client.status records now).map .status :=
  snd_submit_of_run opened rfl

/-- A proof is turned down for its depth or as one that does not match, for nothing else. -/
theorem reason_of_verifyProof {reason : Reason} {root key : Bytes} {proof : Proof}
    {claim : Claim} {limit : Int} {read : Unit → Reply}
    (refused : Outcome.RefusedFor reason
      ((orReject (verifyProof root proof key claim (some limit))).map read)) :
    reason = .limitExceeded ∨ reason = .proofMismatch := by
  rcases refused with ⟨rejection, failed, rfl⟩
  rcases Outcome.orReject_eq_error_iff.1 (Outcome.map_eq_error_iff.1 failed) with
    ⟨other, rejected, same⟩
  cases same
  rcases verifyProof_eq_error_iff.1 rejected with ⟨_, -, -, rfl⟩ | ⟨-, ⟨-, rfl⟩ | ⟨-, -, rfl⟩⟩
  · exact Or.inl rfl
  · exact Or.inr rfl
  · exact Or.inr rfl

namespace ClientId

variable {client : ClientId} {records : Records} {state : ClientState} {store : Store}

/-- The scalars of an installed client determine its status: the latest state is not missing, and
its time is the latest one. -/
theorem WellKept.status_eq (kept : client.WellKept records state) (now : Int) :
    client.status records now = .ok (state.standing now) := by
  rcases kept.latest with ⟨consensus, found, timed⟩
  have scalars := clientState_eq_ok_iff.2 kept.scalars
  have sameExpiry : consensus.isExpired now state.trustingPeriod =
      decide ((state.trustingPeriod.toNat : Int) < now - state.latestTimestamp.toNat) := by
    rw [ConsensusState.isExpired, timed]
  rw [ClientState.standing]
  by_cases frozen : state.isFrozen = true
  · simp only [status, bind, Except.bind, scalars, if_pos frozen]
    rfl
  · simp only [status, bind, Except.bind, scalars, if_neg frozen, found, sameExpiry,
      decide_eq_true_eq]
    rfl

/-! ## Claims at the latest height -/

section

variable {config : Config} {now : Int} {proof : Proof} {key : Bytes} {claim : Claim}

theorem WellKept.unmet_frozen_iff (kept : client.WellKept records state) :
    (∃ rejection, client.FirstUnmet records config now state.latestHeight proof key claim
      .clientFrozen rejection) ↔ state.standing now = .frozen := by
  rw [ClientState.standing_eq_frozen_iff]
  constructor
  · rintro ⟨rejection, unmet⟩
    cases unmet with
    | frozen installed frozen =>
        rw [kept.scalars] at installed
        cases installed
        exact ⟨_, frozen⟩
  · rintro ⟨height, frozen⟩
    exact ⟨_, .frozen kept.scalars frozen⟩

/-- A client that is live finds the state at its latest height. -/
theorem WellKept.exists_finds (kept : client.WellKept records state)
    (live : state.frozenHeight = none) :
    ∃ consensus, client.Finds records state.latestHeight state consensus ∧
      consensus.timestamp = state.latestTimestamp := by
  rcases kept.latest with ⟨consensus, found, timed⟩
  exact ⟨consensus, ⟨kept.scalars, live, Height.le_refl _, found⟩, timed⟩

theorem WellKept.unmet_expired_iff (kept : client.WellKept records state) :
    (∃ rejection, client.FirstUnmet records config now state.latestHeight proof key claim
      .expiredConsensusState rejection) ↔ state.standing now = .expired := by
  rw [ClientState.standing_eq_expired_iff]
  constructor
  · rintro ⟨rejection, unmet⟩
    cases unmet with
    | expired finds late =>
        have installed := finds.installed
        rw [kept.scalars] at installed
        cases installed
        rcases kept.exists_finds finds.live with ⟨consensus, latest, timed⟩
        have stored := finds.stored
        rw [latest.stored] at stored
        cases stored
        rw [timed] at late
        exact ⟨finds.live, late⟩
  · rintro ⟨live, late⟩
    rcases kept.exists_finds live with ⟨consensus, finds, timed⟩
    rw [← timed] at late
    exact ⟨_, .expired finds late⟩

/-- The answer to a claim about the latest state of an active client is that to its proof. -/
theorem WellKept.verifyClaim_of_active (kept : client.WellKept records state)
    {consensus : ConsensusState}
    (stored : client.consensusState? records state.latestHeight = .ok (some consensus))
    (active : state.standing now = .active) :
    client.verifyClaim records config state.latestHeight proof key claim now =
      orReject (verifyProof consensus.stateRoot.bytes proof key claim
        (some config.limits.maxProofDepth)) := by
  rcases ClientState.standing_eq_active_iff.1 active with ⟨live, trusted⟩
  rcases kept.exists_finds live with ⟨latest, finds, timed⟩
  rw [finds.stored] at stored
  cases stored
  rw [← timed] at trusted
  exact finds.verifyClaim_of_trusted trusted

theorem WellKept.statusAgrees [Signing] (kept : client.WellKept records state)
    (opened : store.content? = some records) {consensus : ConsensusState}
    (stored : client.consensusState? records state.latestHeight = .ok (some consensus))
    (value : Option Bytes) :
    StatusAgrees (state.standing now)
      (store.submit ⟨client, config, now, .membership state.latestHeight proof key value⟩).2
      ((orReject (verifyProof consensus.stateRoot.bytes proof key (.ofOption value)
        (some config.limits.maxProofDepth))).map fun _ => .done) := by
  have refusedFor_iff : ∀ reason, Outcome.RefusedFor reason
      (store.submit ⟨client, config, now, .membership state.latestHeight proof key value⟩).2 ↔
      ∃ rejection, client.FirstUnmet records config now state.latestHeight proof key
        (.ofOption value) reason rejection := by
    intro reason
    constructor
    · rintro ⟨rejection, failed, rfl⟩
      rcases ((kept.verifiesExactly opened).refuses _ _ _ _ _ _ _).1 failed with
        ⟨reason, other, unmet, same, rfl⟩
      cases same
      exact ⟨rejection, unmet⟩
    · rintro ⟨rejection, unmet⟩
      refine ⟨rejection, ?_, unmet.reason_eq⟩
      exact ((kept.verifiesExactly opened).refuses _ _ _ _ _ _ _).2
        ⟨reason, rejection, unmet, rfl, unmet.reason_eq⟩
  have frozen_iff := (refusedFor_iff .clientFrozen).trans kept.unmet_frozen_iff
  have expired_iff := (refusedFor_iff .expiredConsensusState).trans kept.unmet_expired_iff
  refine ⟨frozen_iff.symm, expired_iff.symm, ?_⟩
  constructor
  · intro active
    rw [Call.membership, Store.submit_verify opened, kept.verifyClaim_of_active stored active]
  · intro same
    rw [same] at frozen_iff expired_iff
    cases standing : state.standing now with
    | frozen =>
        have reason := reason_of_verifyProof (frozen_iff.2 standing)
        simp at reason
    | expired =>
        have reason := reason_of_verifyProof (expired_iff.2 standing)
        simp at reason
    | active => rfl

end

/-! ## Requests that are no updates -/

variable [Signing]

/-- A request that is no accepted update leaves the latest time and the period alone. -/
theorem WellKept.idle_effect (kept : client.WellKept records state)
    (opened : store.content? = some records) {request : Request}
    (idle : ¬client.AcceptsUpdate store request) :
    ∃ next, client.WellKept (request.effect records) next ∧
      next.latestTimestamp = state.latestTimestamp ∧
      next.trustingPeriod = state.trustingPeriod := by
  rcases kept.succession_effect request with ⟨next, succession⟩
  rw [acceptsUpdate_iff opened] at idle
  have stays := kept.stays_effect succession.kept.scalars idle
  exact ⟨next, succession.kept, stays.2, succession.samePeriod⟩

/-- Any number of requests without an accepted update leave them alone. -/
theorem WellKept.idle_after (kept : client.WellKept records state)
    (opened : store.content? = some records) {requests : List Request}
    (idle : client.Idle store requests) :
    ∃ next, client.WellKept (records.after requests) next ∧
      next.latestTimestamp = state.latestTimestamp ∧
      next.trustingPeriod = state.trustingPeriod := by
  induction requests generalizing store records state with
  | nil => exact ⟨state, kept, rfl, rfl⟩
  | cons request requests ih =>
      rcases idle with ⟨notUpdate, restIdle⟩
      rcases kept.idle_effect opened notUpdate with ⟨middle, keptMiddle, sameTime, samePeriod⟩
      rcases ih keptMiddle (Store.submit_ok opened request).1 restIdle with
        ⟨next, keptNext, nextTime, nextPeriod⟩
      exact ⟨next, keptNext, nextTime.trans sameTime, nextPeriod.trans samePeriod⟩

theorem WellKept.statusTells (kept : client.WellKept records state)
    (opened : store.content? = some records) : client.StatusTells store records state where
  stored := by
    rcases kept.latest with ⟨consensus, found, -⟩
    exact ⟨consensus, found⟩
  agrees := by
    intro consensus stored config now proof key value
    refine ⟨state.standing now, ?_, kept.statusAgrees opened stored value⟩
    rw [Store.submit_status opened, kept.status_eq]
    rfl
  lapses := by
    intro config now answered requests idle other later passed
    rw [Store.submit_status opened, kept.status_eq] at answered
    have expired : state.standing now = .expired := by
      simpa [Except.map] using answered
    rcases kept.idle_after opened idle with ⟨next, keptNext, sameTime, samePeriod⟩
    refine ⟨next.standing later, ?_,
      ClientState.standing_ne_active expired sameTime samePeriod passed⟩
    rw [Store.submit_status (Store.content?_after opened requests), keptNext.status_eq]
    rfl

end ClientId

/-- Start from a store without records of a client, and make any requests, for it or for other
clients. Once the client is installed, its status tells how a claim about its latest state is
answered: it is frozen or expired exactly if the claim is turned down for that, and active
exactly if the answer is that to the proof under the root of the state. A client that is expired
is not active again before an update of it is accepted. -/
theorem statusTells_after [Signing] {store : Store} {records content : Records} {client : ClientId}
    {requests : List Request} {state : ClientState} (opened : store.content? = some records)
    (absent : client.Absent records)
    (reached : (store.after requests).content? = some content)
    (installed : client.clientState? content = .ok (some state)) :
    client.StatusTells (store.after requests) content state := by
  rw [Store.content?_after opened] at reached
  cases reached
  have kept : client.Kept (records.after requests) :=
    ClientId.Kept.after_all (Or.inl absent) requests
  exact (kept.wellKept installed).statusTells (Store.content?_after opened requests)

attribute [local instance] Signing.standard

/-- A state that is trusted for a moment only makes its client expire, and dropping expired states
does not help. -/
theorem statusTells_after_sample :
    (((Store.create .memory).after [Sample.rooting]).submit
        ⟨Sample.client, .standard, 2, .status⟩).2 = .ok (.status .expired) ∧
      ∃ status,
        ((((Store.create .memory).after [Sample.rooting]).after
          [⟨Sample.client, .standard, 9, .prune⟩]).submit
            ⟨Sample.client, .standard, 3, .status⟩).2 = .ok (.status status) ∧
          status ≠ .active := by
  have opened : (Store.create .memory).content? = some Records.empty := rfl
  have absent : Sample.client.Absent Records.empty := fun _ _ _ => rfl
  have reached := Store.content?_after opened [Sample.rooting]
  have tells := statusTells_after opened absent reached Sample.rooting_finds.installed
  have expired : (((Store.create .memory).after [Sample.rooting]).submit
      ⟨Sample.client, .standard, 2, .status⟩).2 = .ok (.status .expired) := by
    rcases tells.agrees Sample.rooted Sample.rooting_finds.stored .standard 2 Sample.shown [1]
      (some [5]) with ⟨status, answered, agrees⟩
    have refused : status = .expired := by
      refine agrees.expired.2 ⟨.expired 0 2 1, ?_, rfl⟩
      rw [Call.membership, Store.submit_verify reached]
      exact Outcome.map_eq_error_iff.2 (Sample.rooting_finds.verifyClaim_of_late (by decide))
    rw [answered, refused]
  have idle : Sample.client.Idle ((Store.create .memory).after [Sample.rooting])
      [⟨Sample.client, .standard, 9, .prune⟩] := by
    refine ⟨?_, trivial⟩
    rintro ⟨-, ⟨header, submits⟩, -⟩
    cases submits
  exact ⟨expired, tells.lapses _ _ expired _ idle _ _ (by decide)⟩

end Finality
