import Finality.Proofs.Client.Custody
import Finality.Proofs.Client.Succession
import Finality.Proofs.Verification.Evidence

/-!
# Forks can be proven

Suppose that a client could have accepted either of two headers that conflict, and has
accepted one of them. However far it has moved on since, the two headers still prove the
misbehaviour, as long as the state that both were verified against is there and the client
is not frozen (`fork_is_provable`). The snapshot at the height of that state is still the
same but for the scalars (`ClientId.Succession.snapshot`), and of those only the clock
drift matters, which never changes.
-/

namespace Finality

namespace ClientId

/-- A client with these scalars could accept each of two headers that conflict. -/
structure Fork [Signing] (client : ClientId) (records : Records) (config : Config)
    (state : ClientState)
    (first second : Header) : Prop where
  installed : client.clientState? records = .ok (some state)
  firstAccepted : ∃ accepted, client.update records config first = .ok accepted
  secondAccepted : ∃ accepted, client.update records config second = .ok accepted
  conflicting : first.Conflicts second

/-- The compact forms of the rosters that are registered at some time in a run. -/
def registeredForms [Signing] (client : ClientId) (records : Records) (requests : List Request) :
    Set Bytes :=
  {form | ∃ done epoch roster, done <+: requests ∧
    client.roster? (records.after done) epoch = .ok (some roster) ∧
    form = Compact.encode .roster roster}

variable {client : ClientId} {records later : Records} {state next : ClientState}

theorem verified_of_update [Signing] {config : Config} {header : Header} {trusted : Snapshot}
    (installed : client.clientState? records = .ok (some state))
    (known : client.snapshot records state state.latestHeight = .ok trusted)
    (accepted : ∃ accepted, client.update records config header = .ok accepted) :
    ∃ verified, verifyHeader config trusted header = .ok verified := by
  rcases accepted with ⟨accepted, passed⟩
  obtain ⟨current, sameTrusted, verified, live, knownAgain, verifies, -⟩ :=
    update_eq_ok_iff.1 passed
  rw [(liveState_eq_ok_iff.1 live).1] at installed
  cases installed
  rw [knownAgain] at known
  cases known
  exact ⟨verified, verifies⟩

/-- The snapshot at an earlier latest height is rebuilt with the present scalars, if the state
is still there and its roster is the same. -/
theorem Succession.snapshot {trusted : Snapshot}
    (succession : client.Succession records later state next)
    (known : client.snapshot records state state.latestHeight = .ok trusted)
    (unpruned : client.consensusState? later state.latestHeight ≠ .ok none)
    (sameRoster : client.roster? later trusted.consensusState.epochId.bytes =
      .ok (some trusted.roster)) :
    client.snapshot later next state.latestHeight =
      .ok { trusted with clientState := next } := by
  rcases snapshot_eq_ok_iff.1 known with ⟨-, consensus, roster, read, registered, rfl⟩
  rcases succession.kept.readsStates state.latestHeight with ⟨found, readLater⟩
  cases found with
  | none => exact absurd readLater unpruned
  | some other =>
      have sameState := succession.states _ other (Height.le_refl _) readLater
      rw [read] at sameState
      cases sameState
      exact snapshot_eq_ok_iff.2
        ⟨Height.not_lt_of_le succession.higher, consensus, roster, readLater, sameRoster, rfl⟩

variable [Signing]

namespace Fork

variable {config : Config} {first second : Header}

theorem symm (fork : client.Fork records config state first second) :
    client.Fork records config state second first where
  installed := fork.installed
  firstAccepted := fork.secondAccepted
  secondAccepted := fork.firstAccepted
  conflicting := fork.conflicting.symm

theorem exists_trusted (fork : client.Fork records config state first second) :
    ∃ trusted, client.snapshot records state state.latestHeight = .ok trusted := by
  rcases fork.firstAccepted with ⟨accepted, passed⟩
  obtain ⟨current, trusted, verified, live, known, -⟩ := update_eq_ok_iff.1 passed
  have sameScalars := (liveState_eq_ok_iff.1 live).1
  rw [fork.installed] at sameScalars
  cases sameScalars
  exact ⟨trusted, known⟩

/-- The headers of a fork are evidence at a later time, if the snapshot that they were accepted
against is found again with scalars of the same clock drift. -/
theorem checkMisbehaviour {trusted : Snapshot}
    (fork : client.Fork records config state first second)
    (known : client.snapshot records state state.latestHeight = .ok trusted)
    (live : client.liveState later = .ok next)
    (sameDrift : next.maxClockDrift = state.maxClockDrift)
    (knownLater : client.snapshot later next state.latestHeight =
      .ok { trusted with clientState := next }) :
    client.checkMisbehaviour later config ⟨client.text, state.latestHeight, first, second⟩ =
      .ok ⟨first.height.lower second.height,
        client.commitWrites (next.frozen (first.height.lower second.height)) none none⟩ := by
  have trustedDrift : next.maxClockDrift = trusted.clientState.maxClockDrift := by
    rcases snapshot_eq_ok_iff.1 known with ⟨-, consensus, roster, -, -, rfl⟩
    exact sameDrift
  rcases verified_of_update fork.installed known fork.firstAccepted with ⟨firstVerified, passes⟩
  rcases verified_of_update fork.installed known fork.secondAccepted with ⟨secondVerified, passed⟩
  rw [← verifyHeader_congr trustedDrift] at passes passed
  rcases fork.conflicting.exists_conflict with ⟨conflict, found⟩
  exact checkMisbehaviour_eq_ok_iff.2
    ⟨next, _, ⟨_, conflict⟩, live, rfl, knownLater,
      detect_eq_ok_iff.2 ⟨fork.conflicting.ne, ⟨_, passes⟩, ⟨_, passed⟩, conflict, found, rfl⟩,
      rfl⟩

end Fork

/-- The snapshot that a client has used is found again after any requests, as long as its
state was not dropped. -/
theorem Kept.snapshot_after {before rest : List Request} {trusted : Snapshot}
    (kept : client.Kept (records.after before))
    (installed : client.clientState? (records.after before) = .ok (some state))
    (known : client.snapshot (records.after before) state state.latestHeight = .ok trusted)
    (live : client.liveState (records.after (before ++ rest)) = .ok next)
    (unpruned :
      client.consensusState? (records.after (before ++ rest)) state.latestHeight ≠ .ok none)
    (collisionFree : Set.InjOn sha256 (client.registeredForms records (before ++ rest))) :
    next.maxClockDrift = state.maxClockDrift ∧
      client.snapshot (records.after (before ++ rest)) next state.latestHeight =
        .ok { trusted with clientState := next } := by
  have split : records.after (before ++ rest) = (records.after before).after rest :=
    List.foldl_append
  rcases (kept.wellKept installed).succession_after rest with ⟨last, succession⟩
  rw [← split] at succession
  have sameScalars := (liveState_eq_ok_iff.1 live).1
  rw [succession.kept.scalars] at sameScalars
  cases sameScalars
  refine ⟨succession.sameDrift, succession.snapshot known unpruned ?_⟩
  rcases snapshot_eq_ok_iff.1 known with ⟨-, consensus, roster, -, registered, rfl⟩
  rcases kept.roster?_after rest registered with ⟨other, registeredLater, sameCommitment⟩
  rw [← split] at registeredLater
  have sameRoster : other = roster :=
    Roster.eq_of_commitment collisionFree
      ⟨_, _, other, List.prefix_refl _, registeredLater, rfl⟩
      ⟨_, _, roster, List.prefix_append _ _, registered, rfl⟩ sameCommitment
  rw [← sameRoster]
  exact registeredLater

end ClientId

/-- Take any content that a client can reach, and two conflicting headers that an update could
each be accepted with there, under one configuration. Let the client accept the first, and
let any requests follow, for it or for other clients. As long as the state that the headers
were verified against is still there and the client is not frozen, submitting both as
misbehaviour, in either order, is accepted, answers with the lower of their heights, and
freezes the client there. The digests of the rosters that were registered in the run must
not collide. -/
theorem fork_is_provable [Signing] {store : Store} {records : Records} {client : ClientId}
    {before more requests : List Request} {config : Config} {now : Int} {state last : ClientState}
    {first second : Header} {evidence : Misbehaviour}
    (opened : store.content? = some records) (absent : client.Absent records)
    (fork : client.Fork (records.after before) config state first second)
    (follows : requests = before ++ ⟨client, config, now, .update first⟩ :: more)
    (unpruned : client.consensusState? (records.after requests) state.latestHeight ≠ .ok none)
    (live : client.liveState (records.after requests) = .ok last)
    (collisionFree : Set.InjOn sha256 (client.registeredForms records requests))
    (submits : evidence = ⟨client.text, state.latestHeight, first, second⟩ ∨
      evidence = ⟨client.text, state.latestHeight, second, first⟩) (time : Int) :
    ∃ content, (store.after requests).submit ⟨client, config, time, .misbehaviour evidence⟩ =
        (content, .ok (.frozenAt (first.height.lower second.height))) ∧
      ∃ final, content.content? = some final ∧
        client.clientState? final =
          .ok (some (last.frozen (first.height.lower second.height))) := by
  subst follows
  have kept : client.Kept (records.after before) :=
    ClientId.Kept.after_all (Or.inl absent) before
  have content := Store.content?_after opened
    (before ++ ⟨client, config, now, .update first⟩ :: more)
  rcases fork.exists_trusted with ⟨trusted, known⟩
  obtain ⟨sameDrift, knownLater⟩ :=
    kept.snapshot_after fork.installed known live unpruned collisionFree
  have proven : client.checkMisbehaviour
      (records.after (before ++ ⟨client, config, now, .update first⟩ :: more)) config evidence =
        .ok ⟨first.height.lower second.height,
          client.commitWrites (last.frozen (first.height.lower second.height)) none none⟩ := by
    rcases submits with rfl | rfl
    · exact fork.checkMisbehaviour known live sameDrift knownLater
    · rw [Height.lower_comm]
      exact fork.symm.checkMisbehaviour known live sameDrift knownLater
  have ran : Request.run ⟨client, config, time, .misbehaviour evidence⟩
      (records.after (before ++ ⟨client, config, now, .update first⟩ :: more)) =
        .ok ⟨.frozenAt (first.height.lower second.height),
          client.commitWrites (last.frozen (first.height.lower second.height)) none none⟩ :=
    Outcome.bind_eq_ok_iff.2 ⟨_, proven, rfl⟩
  rcases Store.submit_ok content ⟨client, config, time, .misbehaviour evidence⟩ with
    ⟨contentAfter, answer⟩
  rw [ran] at answer
  rw [Request.effect_of_accepts (Request.run_eq_ok_iff.1 ran)] at contentAfter
  exact ⟨_, Prod.ext rfl answer, _, contentAfter, ClientId.clientState?_commit⟩

attribute [local instance] Signing.standard

namespace Sample

/-- The first block with another state root. -/
def rival : Header :=
  { approved with inner := { approved.inner with stateRoot := nextEpoch } }

theorem fork : client.Fork (Records.empty.after [installing]) .standard trusted.clientState
    approved rival where
  installed := by
    rw [after_installing]
    exact ClientId.clientState?_commit
  firstAccepted := Outcome.exists_of_isOk (by decide +kernel)
  secondAccepted := Outcome.exists_of_isOk (by decide +kernel)
  conflicting := Or.inl ⟨rfl, Or.inl (by decide +kernel)⟩

/-- Let the client accept the first block. -/
def approving : Request := ⟨client, .standard, 0, .update approved⟩

theorem after_approving :
    Records.empty.after [installing, approving] =
      approving.effect (Records.empty.after [installing]) := by
  simp only [Records.after, List.foldl_cons, List.foldl_nil]

/-- What is read after the first block was accepted. -/
theorem approving_reads :
    (∃ last, client.liveState (Records.empty.after [installing, approving]) = .ok last) ∧
      client.consensusState? (Records.empty.after [installing, approving]) ⟨0, 0⟩ ≠ .ok none := by
  rcases fork.firstAccepted with ⟨accepted, passed⟩
  obtain ⟨state, trusted, verified, live, known, verifies, bound, rfl⟩ :=
    ClientId.update_eq_ok_iff.1 passed
  rw [after_approving,
    @Request.effect_of_accepts _ approving _ _ (.update live known verifies bound)]
  refine ⟨⟨_, ClientId.liveState_eq_ok_iff.2 ⟨ClientId.clientState?_commit, ?_⟩⟩, ?_⟩
  · exact (ClientId.liveState_eq_ok_iff.1 live).2
  · apply ClientId.consensusState?_commit_ne_none
    rw [after_installing, ClientId.consensusState?_commit]
    intro equal
    cases equal

/-- Only the roster of the first epoch is registered. -/
theorem registeredForms_subset :
    client.registeredForms Records.empty [installing, approving] ⊆
      {Compact.encode .roster lone} := by
  have installed : ∀ epoch registered,
      client.roster? (Records.empty.after [installing]) epoch = .ok (some registered) →
        registered = lone := by
    intro epoch registered read
    rw [after_installing, ClientId.roster?_commit] at read
    simp only at read
    split at read
    · cases read
      rfl
    · cases read
  have notOpens : ∀ latest header,
      ¬client.OpensEpoch (Records.empty.after [installing]) approving latest header := by
    intro latest header opens
    rcases opens with ⟨-, submits, -, ⟨state, read, isLatest⟩, leaves⟩
    rw [after_installing, ClientId.clientState?_commit] at read
    cases read
    cases submits
    rw [after_installing, ClientId.consensusState?_commit] at isLatest
    cases isLatest
    exact leaves rfl
  rintro form ⟨done, epoch, registered, initial, read, rfl⟩
  have registeredLone : registered = lone := by
    simp only [List.prefix_cons_iff, List.prefix_nil] at initial
    rcases initial with rfl | ⟨_, rfl, rfl | ⟨_, rfl, rfl⟩⟩
    · cases read
    · exact installed epoch registered read
    · rw [after_approving, ClientId.roster?_effect_of_not_opens fork.installed notOpens] at read
      exact installed epoch registered read
  rw [registeredLone]
  rfl

end Sample

/-- Two versions of the first block freeze the client that has accepted one of them. -/
theorem fork_is_provable_sample :
    ∃ content, ((Store.create .memory).after [Sample.installing, Sample.approving]).submit
        ⟨Sample.client, .standard, 0,
          .misbehaviour ⟨Sample.client.text, ⟨0, 0⟩, Sample.rival, Sample.approved⟩⟩ =
      (content, .ok (.frozenAt ⟨0, 1⟩)) := by
  have opened : (Store.create .memory).content? = some Records.empty := rfl
  have absent : Sample.client.Absent Records.empty := fun _ _ _ => rfl
  have collisionFree : Set.InjOn sha256
      (Sample.client.registeredForms Records.empty [Sample.installing, Sample.approving]) :=
    (Set.injOn_singleton _ _).mono Sample.registeredForms_subset
  rcases Sample.approving_reads with ⟨⟨last, live⟩, unpruned⟩
  rcases @fork_is_provable _ _ _ _ [Sample.installing] [] _ _ _ _ _ _ _ _ opened absent Sample.fork
    rfl unpruned live collisionFree (Or.inr rfl) 0 with ⟨content, answer, -⟩
  exact ⟨content, answer⟩

end Finality
