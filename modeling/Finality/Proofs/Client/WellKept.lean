import Finality.Proofs.Chain.Height
import Finality.Proofs.Client.Accepted
import Finality.Proofs.Client.Rereading
import Finality.Proofs.Store.Content
import Finality.Proofs.Verification.Acceptance

/-!
# The records of a client are well kept

Once a client is installed, its records fit together (`ClientId.WellKept`): all of them can
be read, the latest state is there and agrees with the scalars, no state is above it, and
the roster of the epoch of every state is known. Every accepted call keeps it so
(`ClientId.WellKept.accepts`), whether it installs, advances, freezes or prunes, and a call
that fails changes nothing. So it holds after every run of calls (`ClientId.Kept.after`).
-/

namespace Finality

namespace ClientId

/-- There are no records of a client. -/
def Absent (client : ClientId) (records : Records) : Prop :=
  ∀ space ∈ [Keyspace.clients, Keyspace.states, Keyspace.epochs], ∀ suffix,
    records.get? (space.key client suffix) = none

/-- Every record of a client decodes. There are records under the key of the scalars, the
keys of heights and the keys of epochs only, and reading under any of these keys succeeds,
with a value if there is a record. -/
structure Legible (client : ClientId) (records : Records) : Prop where
  scalarKeys : ∀ suffix, records.get? (Keyspace.clients.key client suffix) ≠ none → suffix = []
  heightKeys : ∀ suffix, records.get? (Keyspace.states.key client suffix) ≠ none →
    ∃ height, suffix = Height.suffix height
  epochKeys : ∀ suffix, records.get? (Keyspace.epochs.key client suffix) ≠ none →
    ∃ epoch : Hash, suffix = epoch.bytes
  readsScalars : ∃ found, client.clientState? records = .ok found
  readsStates : ∀ height, ∃ found, client.consensusState? records height = .ok found
  readsRosters : ∀ epoch, ∃ found, client.roster? records epoch = .ok found

/-- Every record of a state of a client decodes: it is under the key of a height, and reading
there succeeds. -/
structure LegibleStates (client : ClientId) (records : Records) : Prop where
  heightKeys : ∀ suffix, records.get? (Keyspace.states.key client suffix) ≠ none →
    ∃ height, suffix = Height.suffix height
  readsStates : ∀ height, ∃ found, client.consensusState? records height = .ok found

/-- The records of an installed client fit together. -/
structure WellKept (client : ClientId) (records : Records) (state : ClientState) : Prop
    extends Legible client records where
  scalars : client.clientState? records = .ok (some state)
  latest : ∃ consensus,
    client.consensusState? records state.latestHeight = .ok (some consensus) ∧
      consensus.timestamp = state.latestTimestamp
  greatest : ∀ height consensus,
    client.consensusState? records height = .ok (some consensus) → height ≤ state.latestHeight
  rostered : ∀ height consensus,
    client.consensusState? records height = .ok (some consensus) →
      ∃ roster, client.roster? records consensus.epochId.bytes = .ok (some roster)

variable {client : ClientId} {records : Records}

/-! ## Legible records -/

section

theorem Absent.legible (absent : client.Absent records) : client.Legible records where
  scalarKeys := fun suffix present => absurd (absent _ (by simp) suffix) present
  heightKeys := fun suffix present => absurd (absent _ (by simp) suffix) present
  epochKeys := fun suffix present => absurd (absent _ (by simp) suffix) present
  readsScalars := ⟨none, readRecord?_of_missing (absent _ (by simp) _)⟩
  readsStates := fun _ => ⟨none, readRecord?_of_missing (absent _ (by simp) _)⟩
  readsRosters := fun _ => ⟨none, readRecord?_of_missing (absent _ (by simp) _)⟩

theorem Legible.legibleStates (legible : client.Legible records) :
    client.LegibleStates records :=
  ⟨legible.heightKeys, legible.readsStates⟩

variable {state : ClientState} {consensus : Option (Height × ConsensusState)}
  {opened : Option (Hash × Roster)}

theorem LegibleStates.commit (legible : client.LegibleStates records)
    {roster : Option (Bytes × Roster)} :
    client.LegibleStates (records.applyAll (client.commitWrites state consensus roster)) where
  heightKeys := by
    intro suffix present
    by_cases heightLike : ∃ height, suffix = Height.suffix height
    · exact heightLike
    · rw [get?_commit_of_ne (fun equal => absurd equal.symm Keyspace.clients_ne_states)
        (fun _ height equal => heightLike ⟨height, equal⟩)
        (fun equal => absurd equal Keyspace.states_ne_epochs)] at present
      exact legible.heightKeys suffix present
  readsStates := by
    intro height
    rw [consensusState?_commit]
    split
    · split
      · exact ⟨_, rfl⟩
      · exact legible.readsStates height
    · exact legible.readsStates height

theorem LegibleStates.prune (legible : client.LegibleStates records) (heights : List Height) :
    client.LegibleStates (records.applyAll (client.pruneWrites heights)) where
  heightKeys := by
    intro suffix present
    by_cases heightLike : ∃ height, suffix = Height.suffix height
    · exact heightLike
    · rw [get?_prune_of_ne fun _ height equal => heightLike ⟨height, equal⟩] at present
      exact legible.heightKeys suffix present
  readsStates := by
    intro height
    rw [consensusState?_prune]
    split
    · exact ⟨none, rfl⟩
    · exact legible.readsStates height

/-- The writes of a commit, where the roster is one of an epoch. -/
abbrev epochWrites (client : ClientId) (state : ClientState)
    (consensus : Option (Height × ConsensusState)) (opened : Option (Hash × Roster)) :
    List Write :=
  client.commitWrites state consensus (opened.map fun entry => (entry.1.bytes, entry.2))

/-- A commit adds records that decode and touches no others. -/
theorem Legible.commit (legible : client.Legible records) :
    client.Legible (records.applyAll (client.epochWrites state consensus opened)) where
  scalarKeys := by
    intro suffix present
    by_cases scalarLike : suffix = []
    · exact scalarLike
    · rw [get?_commit_of_ne (fun _ => scalarLike)
        (fun equal => absurd equal Keyspace.clients_ne_states)
        (fun equal => absurd equal Keyspace.clients_ne_epochs)] at present
      exact legible.scalarKeys suffix present
  heightKeys := legible.legibleStates.commit.heightKeys
  epochKeys := by
    intro suffix present
    by_cases epochLike : ∃ epoch : Hash, suffix = epoch.bytes
    · exact epochLike
    · have notOpened : ∀ entry ∈ opened.map fun entry => (entry.1.bytes, entry.2),
          suffix ≠ entry.1 := by
        intro entry member equal
        rcases Option.map_eq_some_iff.1 member with ⟨⟨epoch, roster⟩, _, rfl⟩
        exact epochLike ⟨epoch, equal⟩
      rw [get?_commit_of_ne (fun equal => absurd equal.symm Keyspace.clients_ne_epochs)
        (fun equal => absurd equal.symm Keyspace.states_ne_epochs)
        (fun _ => notOpened)] at present
      exact legible.epochKeys suffix present
  readsScalars := ⟨some state, clientState?_commit⟩
  readsStates := legible.legibleStates.commit.readsStates
  readsRosters := by
    intro epoch
    rw [roster?_commit]
    split
    · split
      · exact ⟨_, rfl⟩
      · exact legible.readsRosters epoch
    · exact legible.readsRosters epoch

/-- Dropping states touches no other records. -/
theorem Legible.prune (legible : client.Legible records) (heights : List Height) :
    client.Legible (records.applyAll (client.pruneWrites heights)) where
  scalarKeys := by
    intro suffix present
    rw [get?_prune_of_ne fun equal => absurd equal Keyspace.clients_ne_states] at present
    exact legible.scalarKeys suffix present
  heightKeys := (legible.legibleStates.prune heights).heightKeys
  epochKeys := by
    intro suffix present
    rw [get?_prune_of_ne fun equal => absurd equal.symm Keyspace.states_ne_epochs] at present
    exact legible.epochKeys suffix present
  readsScalars := by
    rw [clientState?_prune]
    exact legible.readsScalars
  readsStates := (legible.legibleStates.prune heights).readsStates
  readsRosters := by
    intro epoch
    rw [roster?_prune]
    exact legible.readsRosters epoch

/-- A record that is met among the states of a client is the one of a height. -/
theorem LegibleStates.exists_heightKey (legible : client.LegibleStates records)
    {entry : Bytes × Bytes} (member : entry ∈ records.scan (Keyspace.states.stem client)) :
    ∃ height, entry.1 = client.heightKey height ∧
      records.get? (client.heightKey height) = some entry.2 := by
  rcases entry with ⟨key, record⟩
  rcases Records.mem_scan.1 member with ⟨stored, suffix, rfl⟩
  have present : records.get? (Keyspace.states.key client suffix) = some record := stored
  rcases legible.heightKeys suffix (by simp [present]) with ⟨height, rfl⟩
  exact ⟨height, rfl, present⟩

/-- The states of a client whose records decode can be listed. -/
theorem LegibleStates.exists_consensusStates (legible : client.LegibleStates records) :
    ∃ states, client.consensusStates records = .ok states := by
  refine Outcome.exists_mapM_ok ?_
  rintro ⟨key, record⟩ member
  rcases legible.exists_heightKey member with ⟨height, rfl, present⟩
  rcases legible.readsStates height with ⟨found, read⟩
  rcases exists_decodeRecord present read with ⟨value, decoded, -⟩
  refine ⟨(height, value), ?_⟩
  simp only [heightKey, suffixOf_key, Height.ofSuffix?_suffix, decoded]
  rfl

/-! ## Records that fit together -/

/-- A roster that is known or is being opened is known after the commit. -/
theorem exists_roster_commit {epoch : Hash}
    (known : (∃ roster, opened = some (epoch, roster)) ∨
      ∃ roster, client.roster? records epoch.bytes = .ok (some roster)) :
    ∃ roster,
      client.roster? (records.applyAll (client.epochWrites state consensus opened)) epoch.bytes =
        .ok (some roster) := by
  rw [roster?_commit]
  rcases known with ⟨roster, rfl⟩ | known
  · exact ⟨roster, by simp⟩
  · split
    · split
      · exact ⟨_, rfl⟩
      · exact known
    · exact known

/-- Records fit together after a state is committed that is above all others, if the roster
of its epoch is known or comes with it. -/
theorem Legible.wellKept_commit (legible : client.Legible records)
    {latest : ConsensusState} (timed : latest.timestamp = state.latestTimestamp)
    (above : ∀ height known, client.consensusState? records height = .ok (some known) →
      height ≤ state.latestHeight)
    (rostered : ∀ height known, client.consensusState? records height = .ok (some known) →
      ∃ roster, client.roster? records known.epochId.bytes = .ok (some roster))
    (registered : (∃ roster, opened = some (latest.epochId, roster)) ∨
      ∃ roster, client.roster? records latest.epochId.bytes = .ok (some roster)) :
    client.WellKept
      (records.applyAll (client.epochWrites state (some (state.latestHeight, latest)) opened))
      state where
  toLegible := legible.commit
  scalars := clientState?_commit
  latest := by
    refine ⟨latest, ?_, timed⟩
    rw [consensusState?_commit]
    simp
  greatest := by
    intro height known read
    rw [consensusState?_commit] at read
    simp only at read
    split at read
    · next same => exact same ▸ Height.le_refl _
    · exact above height known read
  rostered := by
    intro height known read
    rw [consensusState?_commit] at read
    simp only at read
    split at read
    · cases read
      exact exists_roster_commit registered
    · exact exists_roster_commit (Or.inr (rostered height known read))

/-- A commit of scalars alone that keep the latest height and its time. -/
theorem WellKept.commit_scalars {next : ClientState} (kept : client.WellKept records state)
    (sameHeight : next.latestHeight = state.latestHeight)
    (sameTime : next.latestTimestamp = state.latestTimestamp) :
    client.WellKept (records.applyAll (client.epochWrites next none none)) next where
  toLegible := kept.toLegible.commit
  scalars := clientState?_commit
  latest := by
    rw [consensusState?_commit, sameHeight, sameTime]
    exact kept.latest
  greatest := by
    intro height known read
    rw [consensusState?_commit] at read
    rw [sameHeight]
    exact kept.greatest height known read
  rostered := by
    intro height known read
    rw [consensusState?_commit] at read
    rw [roster?_commit]
    exact kept.rostered height known read

/-- Dropping states other than the latest. -/
theorem WellKept.prune (kept : client.WellKept records state) {heights : List Height}
    (spared : state.latestHeight ∉ heights) :
    client.WellKept (records.applyAll (client.pruneWrites heights)) state where
  toLegible := kept.toLegible.prune heights
  scalars := by
    rw [clientState?_prune]
    exact kept.scalars
  latest := by
    rw [consensusState?_prune, if_neg spared]
    exact kept.latest
  greatest := by
    intro height known read
    rw [consensusState?_prune] at read
    split at read
    · cases read
    · exact kept.greatest height known read
  rostered := by
    intro height known read
    rw [roster?_prune]
    rw [consensusState?_prune] at read
    split at read
    · cases read
    · exact kept.rostered height known read

/-! ## Calls -/

/-- The state that an accepted header leaves behind is above all others, and the roster of
its epoch is either the trusted one or the one that the header has brought. -/
theorem WellKept.advance [Signing] {config : Config} {trusted : Snapshot} {header : Header}
    {verified : VerifiedHeader} (kept : client.WellKept records state)
    (known : client.snapshot records state state.latestHeight = .ok trusted)
    (passed : verifyHeader config trusted header = .ok verified) :
    client.WellKept
      (records.applyAll (client.epochWrites
        (state.advanced verified.height verified.consensusState.timestamp)
        (some (verified.height, verified.consensusState)) verified.newEpoch))
      (state.advanced verified.height verified.consensusState.timestamp) := by
  rcases snapshot_eq_ok_iff.1 known with ⟨-, consensus, roster, read, registered, rfl⟩
  rcases verifyHeader_eq_ok_iff.1 passed with ⟨selection, message, stake, checks, rfl⟩
  have above : state.latestHeight < header.height := checks.above
  refine Legible.wellKept_commit kept.toLegible rfl ?_ kept.rostered ?_
  · intro height earlier stored
    exact Height.le_of_lt (Height.lt_of_le_of_lt (kept.greatest height earlier stored) above)
  · rcases selectRoster_eq_ok_iff.1 checks.selected with ⟨sameEpoch, rfl⟩ |
      ⟨-, -, brought, -, rfl⟩
    · have sameRoster : client.roster? records header.inner.epochId.bytes =
          .ok (some roster) := by
        rw [sameEpoch]
        exact registered
      exact Or.inr ⟨roster, sameRoster⟩
    · exact Or.inl ⟨brought, rfl⟩

/-- The first state of a client, with its roster. -/
theorem Absent.install {consensus : ConsensusState} {roster : Roster}
    (absent : client.Absent records) (timed : consensus.timestamp = state.latestTimestamp) :
    client.WellKept
      (records.applyAll (client.epochWrites state (some (state.latestHeight, consensus))
        (some (consensus.epochId, roster)))) state := by
  have noStates : ∀ height, client.consensusState? records height = .ok none :=
    fun height => readRecord?_of_missing (absent _ (by simp) _)
  refine Legible.wellKept_commit absent.legible timed ?_ ?_ (Or.inl ⟨roster, rfl⟩)
  · intro height known stored
    rw [noStates] at stored
    cases stored
  · intro height known stored
    rw [noStates] at stored
    cases stored

/-- The latest state is never dropped. -/
theorem latestHeight_not_mem_expiredHeights (states : List (Height × ConsensusState))
    (now : Int) : state.latestHeight ∉ expiredHeights state states now := by
  intro dropped
  rcases List.mem_map.1 dropped with ⟨entry, member, same⟩
  have apart := (List.mem_filter.1 member).2
  simp [same] at apart

/-- Every accepted call of an installed client keeps its records well. -/
theorem WellKept.accepts [Signing] {config : Config} {now : Int} {call : Call}
    {accepted : Accepted Reply} (kept : client.WellKept records state)
    (accepts : client.Accepts records config now call accepted) :
    ∃ next, client.WellKept (records.applyAll accepted.writes) next := by
  cases accepts with
  | install fresh live rooted timed =>
      rw [kept.scalars] at fresh
      cases fresh
  | @update current trusted header verified live known passed bound =>
      rcases liveState_eq_ok_iff.1 live with ⟨read, -⟩
      rw [kept.scalars] at read
      cases read
      exact ⟨_, kept.advance known passed⟩
  | @misbehaviour current trusted misbehaviour evidence live sameClient known proven =>
      rcases liveState_eq_ok_iff.1 live with ⟨read, -⟩
      rw [kept.scalars] at read
      cases read
      exact ⟨_, kept.commit_scalars rfl rfl⟩
  | verify shown => exact ⟨state, kept⟩
  | status asked => exact ⟨state, kept⟩
  | @prune current states read listed =>
      rw [kept.scalars] at read
      cases read
      exact ⟨state, kept.prune (latestHeight_not_mem_expiredHeights states now)⟩

/-- A client that is not there can only be installed. -/
theorem Absent.accepts [Signing] {config : Config} {now : Int} {call : Call}
    {accepted : Accepted Reply} (absent : client.Absent records)
    (accepts : client.Accepts records config now call accepted) :
    ∃ next, client.WellKept (records.applyAll accepted.writes) next := by
  have noScalars : client.clientState? records = .ok none :=
    readRecord?_of_missing (absent _ (by simp) _)
  have notLive : ∀ state, client.liveState records ≠ .ok state := by
    intro state live
    rcases liveState_eq_ok_iff.1 live with ⟨read, -⟩
    rw [noScalars] at read
    cases read
  cases accepts with
  | install fresh live rooted timed => exact ⟨_, absent.install timed⟩
  | update live known passed bound => exact absurd live (notLive _)
  | misbehaviour live sameClient known proven => exact absurd live (notLive _)
  | verify shown =>
      rcases verifyClaim_eq_ok_iff.1 shown with ⟨state, consensus, live, -⟩
      exact absurd live (notLive state)
  | status asked =>
      rcases Outcome.bind_eq_ok_iff.1 asked with ⟨state, read, -⟩
      rw [clientState_eq_ok_iff, noScalars] at read
      cases read
  | prune read listed =>
      rw [noScalars] at read
      cases read

/-! ## Runs -/

/-- A client is not there, or its records are well kept. -/
def Kept (client : ClientId) (records : Records) : Prop :=
  client.Absent records ∨ ∃ state, client.WellKept records state

theorem Kept.legible (kept : client.Kept records) : client.Legible records := by
  rcases kept with absent | ⟨state, wellKept⟩
  · exact absent.legible
  · exact wellKept.toLegible

/-- The records of a client that is there are well kept. -/
theorem Kept.wellKept {state : ClientState} (kept : client.Kept records)
    (installed : client.clientState? records = .ok (some state)) :
    client.WellKept records state := by
  rcases kept with absent | ⟨other, wellKept⟩
  · have missing : client.clientState? records = .ok none :=
      readRecord?_of_missing (absent _ (by simp) _)
    rw [missing] at installed
    cases installed
  · rw [wellKept.scalars] at installed
    cases installed
    exact wellKept

variable [Signing]

/-- One request keeps the records of its client well, whether it is accepted or not. -/
theorem Kept.effect {request : Request} (kept : request.client.Kept records) :
    request.client.Kept (request.effect records) := by
  rcases request.effect_cases records with same | ⟨accepted, accepts, changed⟩
  · rw [same]
    exact kept
  · rw [changed]
    rcases kept with absent | ⟨state, kept⟩
    · exact Or.inr (absent.accepts accepts)
    · exact Or.inr (kept.accepts accepts)

/-- Any number of requests keeps the records of their client well. -/
theorem Kept.after {requests : List Request} (own : ∀ request ∈ requests, request.client = client)
    (kept : client.Kept records) : client.Kept (records.after requests) := by
  induction requests generalizing records with
  | nil => exact kept
  | cons request requests ih =>
      rcases List.forall_mem_cons.1 own with ⟨rfl, restOwn⟩
      exact ih restOwn kept.effect

end

end ClientId

end Finality
