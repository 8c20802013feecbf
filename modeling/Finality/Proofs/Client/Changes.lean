import Finality.Proofs.Client.Custody
import Finality.Proofs.Client.Listing

/-!
# What a call changes

A call that fails leaves the store as it was. A call that succeeds changes few records, and
`ClientId.Changes` lists them for each kind of call: reading calls change none, an installation
and an accepted header write the scalars, one state at a height without a state, and the roster
of an epoch that begins, misbehaviour writes the scalars with the height at which the client is
frozen, and pruning drops states. Each call changes exactly what is listed, whatever is in the
store (`ClientId.Kept.becomes_of_accepts`).
-/

namespace Finality

namespace ClientId

/-- The records that a successful call changes, given its answer: the keys, each with the bytes
that are kept there afterwards, or none if the record is dropped. -/
inductive Changes (client : ClientId) (records : Records) (config : Config) :
    Call → Reply → List (Bytes × Option Bytes) → Prop where
  | install {state : ClientState} {consensus : ConsensusState} {roster : Roster}
      (unused : records.get? (client.heightKey state.latestHeight) = none) :
      Changes client records config (.install state consensus roster) .done
        [(client.stateKey, some (Compact.encode .clientState state)),
          (client.heightKey state.latestHeight,
            some (Compact.encode .consensusState consensus)),
          (client.epochKey consensus.epochId.bytes, some (Compact.encode .roster roster))]
  | advance {state : ClientState} {trusted : Snapshot} {header : Header} {active : Roster}
      (kept : records.get? client.stateKey = some (Compact.encode .clientState state))
      (known : client.snapshot records state state.latestHeight = .ok trusted)
      (selected : selectRoster trusted header (some config.limits.maxValidators) =
        .ok ⟨active, false⟩)
      (unused : records.get? (client.heightKey header.height) = none) :
      Changes client records config (.update header) (.state header.consensusState)
        [(client.stateKey, some (Compact.encode .clientState
            { state with
              latestHeight := header.height
              latestTimestamp := header.inner.timestamp })),
          (client.heightKey header.height,
            some (Compact.encode .consensusState header.consensusState))]
  | openEpoch {state : ClientState} {trusted : Snapshot} {header : Header} {active : Roster}
      (kept : records.get? client.stateKey = some (Compact.encode .clientState state))
      (known : client.snapshot records state state.latestHeight = .ok trusted)
      (selected : selectRoster trusted header (some config.limits.maxValidators) =
        .ok ⟨active, true⟩)
      (unused : records.get? (client.heightKey header.height) = none) :
      Changes client records config (.update header) (.state header.consensusState)
        [(client.stateKey, some (Compact.encode .clientState
            { state with
              latestHeight := header.height
              latestTimestamp := header.inner.timestamp })),
          (client.heightKey header.height,
            some (Compact.encode .consensusState header.consensusState)),
          (client.epochKey header.inner.epochId.bytes, some (Compact.encode .roster active))]
  | freeze {state : ClientState} {misbehaviour : Misbehaviour} {height : Height}
      (kept : records.get? client.stateKey = some (Compact.encode .clientState state)) :
      Changes client records config (.misbehaviour misbehaviour) (.frozenAt height)
        [(client.stateKey, some (Compact.encode .clientState
            { state with frozenHeight := some height }))]
  | verify {height : Height} {proof : Proof} {key : Bytes} {claim : Claim} :
      Changes client records config (.verify height proof key claim) .done []
  | status {status : Status} : Changes client records config .status (.status status) []
  | prune {heights : List Height} :
      Changes client records config .prune (.pruned heights)
        (heights.map fun height => (client.heightKey height, none))

variable {client : ClientId} {records : Records}

/-! ## Commits and drops -/

theorem becomes_commit {state : ClientState} {consensus : Option (Height × ConsensusState)}
    {roster : Option (Bytes × Roster)} :
    records.Becomes (records.applyAll (client.commitWrites state consensus roster))
      ((client.commitWrites state consensus roster).map fun write =>
        (write.key, write.value?)) := by
  have distinct : ((client.commitWrites state consensus roster).map Write.key).Nodup := by
    cases consensus <;> cases roster <;>
      simp [commitWrites, Write.key, stateKey_ne_heightKey, stateKey_ne_epochKey,
        heightKey_ne_epochKey]
  refine Records.becomes_applyAll ?_
  intro write written other otherWritten sameKey
  rw [List.inj_on_of_nodup_map distinct otherWritten written sameKey]

theorem becomes_prune (heights : List Height) :
    records.Becomes (records.applyAll (client.pruneWrites heights))
      (heights.map fun height => (client.heightKey height, none)) := by
  have drops : ∀ write ∈ client.pruneWrites heights, write.value? = none := by
    intro write member
    rcases List.mem_map.1 member with ⟨height, -, rfl⟩
    rfl
  have becomes : records.Becomes (records.applyAll (client.pruneWrites heights))
      ((client.pruneWrites heights).map fun write => (write.key, write.value?)) := by
    refine Records.becomes_applyAll ?_
    intro write written other otherWritten _
    rw [drops write written, drops other otherWritten]
  rw [pruneWrites, List.map_map] at becomes
  exact becomes

/-! ## Calls -/

/-- There is no state above the latest height. -/
theorem WellKept.get?_heightKey_of_above {state : ClientState} {height : Height}
    (kept : client.WellKept records state) (above : state.latestHeight < height) :
    records.get? (client.heightKey height) = none := by
  rcases kept.readsStates height with ⟨found, read⟩
  cases found with
  | none => exact readRecord?_eq_none_iff.1 read
  | some consensus =>
      exact absurd above (Height.not_lt_of_le (kept.greatest height consensus read))

/-- A client without scalars has no records at all. -/
theorem Kept.absent (kept : client.Kept records)
    (fresh : client.clientState? records = .ok none) : client.Absent records := by
  rcases kept with absent | ⟨state, kept⟩
  · exact absent
  · rw [kept.scalars] at fresh
    cases fresh

/-- An accepted call changes exactly the records that are listed for it. -/
theorem Kept.becomes_of_accepts [Signing] {config : Config} {now : Int} {call : Call}
    {accepted : Accepted Reply} (kept : client.Kept records)
    (accepts : client.Accepts records config now call accepted) :
    ∃ changes, client.Changes records config call accepted.result changes ∧
      records.Becomes (records.applyAll accepted.writes) changes := by
  cases accepts with
  | install fresh live rooted timed =>
      exact ⟨_, .install (kept.absent fresh _ (by simp) _), becomes_commit⟩
  | @update state trusted header verified live known passed bound =>
      rcases liveState_eq_ok_iff.1 live with ⟨read, -⟩
      have stored := clientState?_eq_some_iff.1 read
      rcases verifyHeader_eq_ok_iff.1 passed with ⟨⟨active, rollover⟩, message, stake, checks, rfl⟩
      have above : state.latestHeight < header.height := by
        rcases snapshot_eq_ok_iff.1 known with ⟨-, consensus, roster, -, -, rfl⟩
        exact checks.above
      have unused := (kept.wellKept read).get?_heightKey_of_above above
      cases rollover with
      | false => exact ⟨_, .advance stored known checks.selected unused, becomes_commit⟩
      | true => exact ⟨_, .openEpoch stored known checks.selected unused, becomes_commit⟩
  | misbehaviour live sameClient known proven =>
      rcases liveState_eq_ok_iff.1 live with ⟨read, -⟩
      exact ⟨_, .freeze (clientState?_eq_some_iff.1 read), becomes_commit⟩
  | verify shown => exact ⟨[], .verify, ⟨by simp, fun _ _ => rfl⟩⟩
  | status asked => exact ⟨[], .status, ⟨by simp, fun _ _ => rfl⟩⟩
  | prune read listed => exact ⟨_, .prune, becomes_prune _⟩

end ClientId

/-- Start from a store without records of a client, and make any requests, for it or for other
clients. If a request for the client fails then, the store is left as it is. If it succeeds, it
changes the records that are listed for its call, as they are listed, and no others.

The storage is relied on to carry out a batch to its end. What is at stake here is that no call
has anything left to check once it enters the block of its batch, and that a closed store is left
before that. -/
theorem submit_changes_listed [Signing] {store : Store} {records : Records} {request : Request}
    (opened : store.content? = some records) (absent : request.client.Absent records)
    (requests : List Request) :
    ∃ content, (store.after requests).content? = some content ∧
      (∀ failure, ((store.after requests).submit request).2 = .error failure →
        ((store.after requests).submit request).1 = store.after requests) ∧
      ∀ reply, ((store.after requests).submit request).2 = .ok reply →
        ∃ changes later,
          request.client.Changes content request.config request.call reply changes ∧
            ((store.after requests).submit request).1.content? = some later ∧
            content.Becomes later changes := by
  have content := Store.content?_after opened requests
  have kept : request.client.Kept (records.after requests) :=
    ClientId.Kept.after_all (Or.inl absent) requests
  refine ⟨_, content, fun failure => Store.fst_submit_of_error, ?_⟩
  intro reply answered
  rcases (Store.snd_submit_eq_ok_iff content).1 answered with ⟨writes, ran⟩
  have accepts := Request.run_eq_ok_iff.1 ran
  rcases kept.becomes_of_accepts accepts with ⟨changes, listed, becomes⟩
  have contentAfter := (Store.submit_ok content request).1
  rw [Request.effect_of_accepts accepts] at contentAfter
  exact ⟨changes, _, listed, contentAfter, becomes⟩

attribute [local instance] Signing.standard

/-- A header that opens an epoch changes what is listed for it. -/
theorem submit_changes_listed_sample :
    ∃ content reply changes later,
      (((Store.create .memory).after [Sample.installing]).submit
          ⟨Sample.client, .standard, 0, .update Sample.opening⟩).2 = .ok reply ∧
        Sample.client.Changes content .standard (.update Sample.opening) reply changes ∧
        (((Store.create .memory).after [Sample.installing]).submit
          ⟨Sample.client, .standard, 0, .update Sample.opening⟩).1.content? = some later ∧
        content.Becomes later changes := by
  have opened : (Store.create .memory).content? = some Records.empty := rfl
  have absent : Sample.client.Absent Records.empty := fun _ _ _ => rfl
  rcases Sample.opening_opens.accepted with ⟨accepted, ran⟩
  have answered := (Store.snd_submit_eq_ok_iff
    (Store.content?_after opened [Sample.installing])).2 ⟨accepted.writes, ran⟩
  rcases @submit_changes_listed _ _ _ ⟨Sample.client, .standard, 0, .update Sample.opening⟩ opened
    absent [Sample.installing] with ⟨content, -, -, succeeds⟩
  rcases succeeds _ answered with ⟨changes, later, listed, contentAfter, becomes⟩
  exact ⟨content, _, changes, later, answered, listed, contentAfter, becomes⟩

end Finality
