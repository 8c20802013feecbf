import Finality.Proofs.Client.Custody
import Finality.Proofs.Verification.Refusals

/-!
# How updates and misbehaviour are refused

A client answers an update or a submission of misbehaviour with a result or with a rejection,
in every state that it can be brought into and whatever is submitted, apart from the overflow
of a height (`refusals_after`). The records of a client always decode, and its epochs are
bound to keys of the right size, so nothing that was stored makes a call fail in another way.
The overflow is there for every installed client: a header at one of the two greatest
heights ends an update without a rejection (`greatest_height_escapes`).
-/

namespace Finality

namespace ClientId

/-- The header of an update overflows against the latest state of a live client. -/
def UpdateOverflows (client : ClientId) (records : Records) (config : Config)
    (header : Header) : Prop :=
  ∃ state trusted, client.liveState records = .ok state ∧
    client.snapshot records state state.latestHeight = .ok trusted ∧
      header.Overflows config trusted

/-- Misbehaviour of a live client overflows against the state at its trusted height. -/
def MisbehaviourOverflows [Signing] (client : ClientId) (records : Records) (config : Config)
    (misbehaviour : Misbehaviour) : Prop :=
  ∃ state trusted, client.liveState records = .ok state ∧
    misbehaviour.clientId = client.text ∧
      client.snapshot records state misbehaviour.trustedHeight = .ok trusted ∧
        misbehaviour.Overflows config trusted

section

variable {client : ClientId} {records : Records} {config : Config}

/-! ## Reading records -/

theorem readRecord?_rejects {kind : Kind} {key : Bytes} :
    Outcome.FailsWith Failure.IsRejection (readRecord? records kind key) := by
  rw [readRecord?]
  split
  · exact .ok none
  · exact .map Outcome.orReject_isRejection

theorem liveState_rejects :
    Outcome.FailsWith Failure.IsRejection (client.liveState records) := by
  rw [liveState, clientState]
  refine .bind (.bind readRecord?_rejects fun found _ => ?_) fun state _ => ?_
  · cases found with
    | none => exact Outcome.reject_isRejection
    | some state => exact .ok state
  · split
    · exact .bind Outcome.reject_isRejection fun _ _ => .ok _
    · exact .ok _

theorem snapshot_rejects {state : ClientState} {height : Height} :
    Outcome.FailsWith Failure.IsRejection (client.snapshot records state height) := by
  rw [snapshot]
  refine .guard ⟨_, rfl⟩ ?_
  refine .bind readRecord?_rejects fun consensus _ => ?_
  cases consensus with
  | none => exact Outcome.reject_isRejection
  | some consensus =>
      refine .bind readRecord?_rejects fun roster _ => ?_
      cases roster with
      | none => exact Outcome.reject_isRejection
      | some roster => exact .ok _

/-- A new epoch is checked against a chain that is always found, and its id has the size of
one. -/
theorem Kept.checkEpoch_rejects (kept : client.Kept records) {verified : VerifiedHeader} :
    Outcome.FailsWith Failure.IsRejection (client.checkEpoch records verified) := by
  rw [checkEpoch]
  split
  · exact .ok ()
  · next epoch roster _ =>
    rcases kept.exists_chain with ⟨chain, registers⟩
    rw [registers.rebuilt]
    refine .bind (.ok chain) fun known isChain => ?_
    cases isChain
    refine .bind ?_ fun _ _ => .ok ()
    cases bound : chain.get? epoch.bytes with
    | none =>
        rw [EpochChain.extend_of_unbound bound]
        exact .ok _
    | some other =>
        rw [EpochChain.extend, bound]
        simp only
        split
        · exact .ok chain
        · exact Outcome.reject_isRejection

/-! ## Calls -/

variable [Signing]

theorem Kept.update_refuses (kept : client.Kept records) {header : Header} :
    Outcome.FailsWith
      (Outcome.OrEscapes Failure.IsRejection .heightOverflow
        (client.UpdateOverflows records config header))
      (client.update records config header) := by
  rw [update]
  refine .bind liveState_rejects.orEscapes fun state live => ?_
  refine .bind snapshot_rejects.orEscapes fun trusted known => ?_
  have headerRefuses := (@verifyHeader_refuses _ config trusted header).weaken (fun _ => id)
    fun overflows => (⟨state, trusted, live, known, overflows⟩ :
      client.UpdateOverflows records config header)
  refine .bind headerRefuses fun verified _ => ?_
  exact .bind kept.checkEpoch_rejects.orEscapes fun _ _ => .ok _

theorem update_of_overflows {header : Header}
    (overflows : client.UpdateOverflows records config header) :
    client.update records config header = .error .heightOverflow := by
  rcases overflows with ⟨state, trusted, live, known, overflows⟩
  rw [update, Outcome.bind_of_ok live, Outcome.bind_of_ok known]
  exact Outcome.bind_of_error (verifyHeader_of_overflows overflows)

theorem checkMisbehaviour_refuses {misbehaviour : Misbehaviour} :
    Outcome.FailsWith
      (Outcome.OrEscapes Failure.IsRejection .heightOverflow
        (client.MisbehaviourOverflows records config misbehaviour))
      (client.checkMisbehaviour records config misbehaviour) := by
  rw [checkMisbehaviour]
  refine .bind liveState_rejects.orEscapes fun state live => ?_
  split
  · refine .bind Outcome.reject_isRejection.orEscapes fun _ passed => ?_
    exact absurd passed Outcome.reject_ne_ok
  · next own =>
    refine .bind snapshot_rejects.orEscapes fun trusted known => ?_
    have pairRefuses := (@detect_refuses _ config trusted misbehaviour).weaken
      (fun _ => Failure.IsNotProven.isRejection) fun overflows =>
        (⟨state, trusted, live, not_not.1 own, known, overflows⟩ :
          client.MisbehaviourOverflows records config misbehaviour)
    exact .bind pairRefuses fun evidence _ => .ok _

theorem checkMisbehaviour_of_overflows {misbehaviour : Misbehaviour}
    (overflows : client.MisbehaviourOverflows records config misbehaviour) :
    client.checkMisbehaviour records config misbehaviour = .error .heightOverflow := by
  rcases overflows with ⟨state, trusted, live, own, known, overflows⟩
  rw [checkMisbehaviour, Outcome.bind_of_ok live, if_neg (not_not.2 own),
    Outcome.bind_of_ok known]
  exact Outcome.bind_of_error (detect_of_overflows overflows)

end

end ClientId

/-! ## Answers -/

section

variable [Signing] {store : Store} {records : Records} {client : ClientId} {config : Config}
  {now : Int}

theorem Store.submit_update (opened : store.content? = some records) (header : Header) :
    (store.submit ⟨client, config, now, .update header⟩).2 =
      (client.update records config header).map fun accepted => .state accepted.result :=
  snd_submit_of_run opened rfl

theorem Store.submit_misbehaviour (opened : store.content? = some records)
    (misbehaviour : Misbehaviour) :
    (store.submit ⟨client, config, now, .misbehaviour misbehaviour⟩).2 =
      (client.checkMisbehaviour records config misbehaviour).map
        fun accepted => .frozenAt accepted.result :=
  snd_submit_of_run opened rfl

end

/-- Start from a store without records of a client and make any requests, of this and of other
clients. Then an update and a submission of misbehaviour are answered with a result or with a
rejection, and a comparison of two headers with evidence or with the rejection that
misbehaviour is not proven, unless a height overflows; and for each of them it is known
exactly when a height does. -/
theorem refusals_after [Signing] {store : Store} {records : Records} {client : ClientId}
    (opened : store.content? = some records) (absent : client.Absent records)
    (requests : List Request) :
    ∃ final, (store.after requests).content? = some final ∧
      (∀ config now header,
        Outcome.FailsUnless Failure.IsRejection .heightOverflow
          (client.UpdateOverflows final config header)
          ((store.after requests).submit ⟨client, config, now, .update header⟩).2) ∧
      (∀ config now misbehaviour,
        Outcome.FailsUnless Failure.IsRejection .heightOverflow
          (client.MisbehaviourOverflows final config misbehaviour)
          ((store.after requests).submit ⟨client, config, now, .misbehaviour misbehaviour⟩).2) ∧
      ∀ config trusted misbehaviour,
        Outcome.FailsUnless Failure.IsNotProven .heightOverflow
          (misbehaviour.Overflows config trusted) (detect config trusted misbehaviour) := by
  have content := Store.content?_after opened requests
  have kept : client.Kept (records.after requests) :=
    ClientId.Kept.after_all (Or.inl absent) requests
  refine ⟨records.after requests, content, ?_, ?_, ?_⟩
  · intro config now header
    have updated : Outcome.FailsUnless Failure.IsRejection .heightOverflow
        (client.UpdateOverflows (records.after requests) config header)
        (client.update (records.after requests) config header) :=
      .of_failsWith kept.update_refuses Failure.not_isRejection_heightOverflow
        ClientId.update_of_overflows
    rw [Store.submit_update content]
    exact updated.map _
  · intro config now misbehaviour
    have checked : Outcome.FailsUnless Failure.IsRejection .heightOverflow
        (client.MisbehaviourOverflows (records.after requests) config misbehaviour)
        (client.checkMisbehaviour (records.after requests) config misbehaviour) :=
      .of_failsWith ClientId.checkMisbehaviour_refuses Failure.not_isRejection_heightOverflow
        ClientId.checkMisbehaviour_of_overflows
    rw [Store.submit_misbehaviour content]
    exact checked.map _
  · intro config trusted misbehaviour
    exact .of_failsWith detect_refuses
      (fun notProven => Failure.not_isRejection_heightOverflow notProven.isRejection)
      detect_of_overflows

/-! ## The greatest heights -/

attribute [local instance] Signing.standard

namespace Sample

/-- A block at the greatest height, which nobody has signed. -/
def greatest : Header := header 18446744073709551615 []

/-- The submission of two blocks at the two greatest heights. -/
def greatestTwo : Misbehaviour := ⟨client.text, ⟨0, 0⟩, greatest, header 18446744073709551614 []⟩

/-- The snapshot of the client after it was installed. -/
def installed : Snapshot := ⟨trusted.clientState, ⟨0, 0⟩, committing, lone⟩

theorem liveState_after_installing :
    client.liveState (Records.empty.after [installing]) = .ok installed.clientState := by
  rw [after_installing]
  exact ClientId.liveState_eq_ok_iff.2 ⟨ClientId.clientState?_commit, rfl⟩

theorem snapshot_after_installing :
    client.snapshot (Records.empty.after [installing]) installed.clientState ⟨0, 0⟩ =
      .ok installed := by
  rw [after_installing]
  refine ClientId.snapshot_eq_ok_iff.2 ⟨Height.lt_irrefl _, committing, lone, ?_, ?_, rfl⟩
  · rw [ClientId.consensusState?_commit]
    exact if_pos rfl
  · rw [ClientId.roster?_commit]
    exact if_pos rfl

theorem greatest_overflows : greatest.Overflows .standard installed where
  above := by decide
  active := ⟨_, .sameEpoch rfl (by decide)⟩
  greatest := by decide

theorem update_overflows :
    client.UpdateOverflows (Records.empty.after [installing]) .standard greatest :=
  ⟨installed.clientState, installed, liveState_after_installing, snapshot_after_installing,
    greatest_overflows⟩

theorem misbehaviour_overflows :
    client.MisbehaviourOverflows (Records.empty.after [installing]) .standard greatestTwo :=
  ⟨installed.clientState, installed, liveState_after_installing, rfl, snapshot_after_installing,
    by decide, Or.inl greatest_overflows⟩

end Sample

/-- Neither an update nor misbehaviour with the greatest height is answered with a result or a
rejection. -/
theorem greatest_height_escapes :
    (((Store.create .memory).after [Sample.installing]).submit
        ⟨Sample.client, .standard, 0, .update Sample.greatest⟩).2 = .error .heightOverflow ∧
      (((Store.create .memory).after [Sample.installing]).submit
        ⟨Sample.client, .standard, 0, .misbehaviour Sample.greatestTwo⟩).2 =
          .error .heightOverflow ∧
      ¬Failure.heightOverflow.IsRejection := by
  have opened : (Store.create .memory).content? = some Records.empty := rfl
  have content := Store.content?_after opened [Sample.installing]
  refine ⟨?_, ?_, Failure.not_isRejection_heightOverflow⟩
  · rw [Store.submit_update content, ClientId.update_of_overflows Sample.update_overflows]
    rfl
  · rw [Store.submit_misbehaviour content,
      ClientId.checkMisbehaviour_of_overflows Sample.misbehaviour_overflows]
    rfl

/-- After the client is installed, an update that fails is rejected below the two greatest
heights, and it overflows at the greatest one. -/
theorem refusals_after_sample :
    (∀ header failure, header.inner.height.toNat + 2 < 2 ^ 64 →
      (((Store.create .memory).after [Sample.installing]).submit
        ⟨Sample.client, .standard, 0, .update header⟩).2 = .error failure →
          failure.IsRejection) ∧
      (((Store.create .memory).after [Sample.installing]).submit
        ⟨Sample.client, .standard, 0, .update Sample.greatest⟩).2 = .error .heightOverflow := by
  have opened : (Store.create .memory).content? = some Records.empty := rfl
  have absent : Sample.client.Absent Records.empty := fun _ _ _ => rfl
  rcases refusals_after opened absent [Sample.installing] with ⟨final, content, updates, -, -⟩
  rw [Store.content?_after opened] at content
  cases content
  constructor
  · intro header failure low failed
    rcases (updates .standard 0 header).others failure failed with rejected | rfl
    · exact rejected
    · rcases (updates .standard 0 header).escapes_iff.1 failed with ⟨_, _, -, -, overflows⟩
      exact absurd low (Nat.not_lt.2 overflows.greatest)
  · exact (updates .standard 0 Sample.greatest).escapes_iff.2 Sample.update_overflows

end Finality
