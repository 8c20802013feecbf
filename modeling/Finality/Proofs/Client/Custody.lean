import Finality.Proofs.Chain.Content
import Finality.Proofs.Client.Bystander
import Finality.Proofs.Client.Registry
import Finality.Proofs.Client.Trusted

/-!
# Chain of custody of rosters

The roster of an epoch comes from the state before it: that state names the epoch that
follows and commits to its roster, and only an accepted header of that epoch registers it
(`ClientId.OpensEpoch.opens`). No other request registers a roster once the client is
installed (`ClientId.roster?_effect_of_not_opens`). An epoch that is opened again keeps its
commitment, so the commitment of an epoch never changes (`ClientId.Kept.commitment_after`).
-/

namespace Finality

namespace ClientId

/-- A request is an update of a client that is accepted, with a header that leaves the epoch
of the latest state. -/
structure OpensEpoch [Signing] (client : ClientId) (records : Records) (request : Request)
    (latest : ConsensusState) (header : Header) : Prop where
  own : request.client = client
  submits : request.call = .update header
  accepted : ∃ accepted, request.run records = .ok accepted
  isLatest : ∃ state, client.clientState? records = .ok (some state) ∧
    client.consensusState? records state.latestHeight = .ok (some latest)
  leaves : header.inner.epochId ≠ latest.epochId

variable {client : ClientId} {records : Records} {state : ClientState}

/-! ## Which requests register a roster -/

/-- An accepted header of the latest epoch registers no roster. One of another epoch is of the
epoch that the latest state names next, and it registers the roster that this state commits
to. -/
theorem newEpoch_of_verified [Signing] {config : Config} {latest : ConsensusState} {roster : Roster}
    {height : Height} {header : Header} {verified : VerifiedHeader}
    (passed : verifyHeader config ⟨state, height, latest, roster⟩ header = .ok verified) :
    (header.inner.epochId = latest.epochId ∧ verified.newEpoch = none) ∨
      (header.inner.epochId ≠ latest.epochId ∧ latest.nextEpochId = header.inner.epochId ∧
        ∃ brought, brought.commitment = latest.nextRosterHash ∧
          verified.newEpoch = some (header.inner.epochId, brought)) := by
  rcases verifyHeader_eq_ok_iff.1 passed with ⟨selection, message, stake, checks, rfl⟩
  rcases selectRoster_eq_ok_iff.1 checks.selected with ⟨sameEpoch, rfl⟩ |
    ⟨leaves, announced, brought, openedEpoch, rfl⟩
  · exact Or.inl ⟨sameEpoch, rfl⟩
  · exact Or.inr ⟨leaves, announced.symm, brought, commitment_of_openEpoch openedEpoch, rfl⟩

/-- An update that opens an epoch takes it from the latest state, together with the commitment
to its roster, and it has checked that the chain can be extended by this roster. -/
theorem OpensEpoch.opens [Signing] {request : Request} {latest : ConsensusState} {header : Header}
    (opens : client.OpensEpoch records request latest header) :
    latest.nextEpochId = header.inner.epochId ∧
      ∃ roster : Roster, roster.commitment = latest.nextRosterHash ∧
        (∃ chain extended, client.epochChain records = .ok chain ∧
          chain.extend header.inner.epochId.bytes roster = .ok extended) ∧
        ∀ epoch, client.roster? (request.effect records) epoch =
          if header.inner.epochId.bytes = epoch then .ok (some roster)
          else client.roster? records epoch := by
  rcases opens with ⟨rfl, submits, ⟨accepted, ran⟩, ⟨state, read, isLatest⟩, leaves⟩
  have accepts := Request.run_eq_ok_iff.1 ran
  rw [Request.effect_of_accepts accepts]
  rw [submits] at accepts
  cases accepts with
  | @update current trusted header verified live known passed bound =>
      rcases liveState_eq_ok_iff.1 live with ⟨sameRead, -⟩
      rw [read] at sameRead
      cases sameRead
      rcases snapshot_eq_ok_iff.1 known with ⟨-, consensus, roster, found, registered, rfl⟩
      rw [isLatest] at found
      cases found
      rcases newEpoch_of_verified passed with ⟨stays, -⟩ | ⟨-, announced, brought, committed, new⟩
      · exact absurd stays leaves
      · refine ⟨announced, brought, committed, ?_, ?_⟩
        · rw [checkEpoch, new] at bound
          rcases Outcome.bind_eq_ok_iff.1 bound with ⟨chain, rebuilt, added⟩
          rcases Outcome.bind_eq_ok_iff.1 added with ⟨extended, added, -⟩
          exact ⟨chain, extended, rebuilt, added⟩
        · intro epoch
          rw [roster?_commit, new]
          rfl

/-- No other request of an installed client registers a roster. -/
theorem roster?_effect_of_not_opens [Signing] {request : Request}
    (installed : client.clientState? records = .ok (some state))
    (notOpens : ∀ latest header, ¬client.OpensEpoch records request latest header)
    (epoch : Bytes) :
    client.roster? (request.effect records) epoch = client.roster? records epoch := by
  rcases client.effect_cases request records with same | ⟨rfl, accepted, accepts, changed⟩
  · exact same.roster? epoch
  · have ran := Request.run_eq_ok_iff.2 accepts
    rw [changed]
    generalize submits : request.call = call at accepts
    cases accepts with
    | install fresh live rooted timed =>
        rw [installed] at fresh
        cases fresh
    | @update current trusted header verified live known passed bound =>
        rcases liveState_eq_ok_iff.1 live with ⟨read, -⟩
        rcases snapshot_eq_ok_iff.1 known with ⟨-, latest, roster, found, registered, rfl⟩
        rcases newEpoch_of_verified passed with ⟨-, stays⟩ | ⟨leaves, -⟩
        · rw [roster?_commit, stays]
          rfl
        · exact absurd ⟨rfl, submits, ⟨_, ran⟩, ⟨current, read, found⟩, leaves⟩
            (notOpens latest header)
    | misbehaviour live sameClient known proven => rw [roster?_commit]
    | verify shown => rfl
    | status asked => rfl
    | prune read listed => rw [roster?_prune]

/-! ## The chain before and after -/

variable {later : Records} {chain next : EpochChain}

theorem Registers.get?_congr (registers : client.Registers records chain)
    (registersLater : client.Registers later next) {epoch : Hash}
    (same : client.roster? later epoch.bytes = client.roster? records epoch.bytes) :
    next.get? epoch.bytes = chain.get? epoch.bytes := by
  rw [registers.reads, registersLater.reads] at same
  exact Except.ok.inj same

end ClientId

/-- A chain becomes another one when an epoch is opened after a state: the state names the
epoch and commits to its roster, the roster is bound to the epoch and nothing else changes,
and extending the first chain in memory leads to the same commitments. It leads to the same
rosters too, unless the forms of two rosters have one digest. -/
structure EpochChain.Opened (chain next : EpochChain) (latest : ConsensusState) (epoch : Hash)
    (roster : Roster) : Prop where
  announced : latest.nextEpochId = epoch
  committed : roster.commitment = latest.nextRosterHash
  bound : ∀ other : Hash,
    next.get? other.bytes = if epoch = other then some roster else chain.get? other.bytes
  agrees : ∀ known, chain.get? epoch.bytes = some known → known.commitment = roster.commitment
  extended : ∃ extended, chain.extend epoch.bytes roster = .ok extended ∧
    (∀ other, next.commitment? other = extended.commitment? other) ∧
    ((∀ known, chain.get? epoch.bytes = some known →
        Set.InjOn sha256 {Compact.encode .roster known, Compact.encode .roster roster}) →
      ∀ other : Hash, next.get? other.bytes = extended.get? other.bytes)

namespace ClientId

variable {client : ClientId} {records : Records} {chain next : EpochChain}

/-- What an update that opens an epoch makes of the chain. -/
theorem OpensEpoch.opened [Signing] {request : Request} {latest : ConsensusState} {header : Header}
    (opens : client.OpensEpoch records request latest header)
    (registers : client.Registers records chain)
    (registersNext : client.Registers (request.effect records) next) :
    ∃ roster, chain.Opened next latest header.inner.epochId roster := by
  rcases opens.opens with ⟨announced, roster, committed, ⟨known, extended, rebuilt, added⟩, reads⟩
  rw [registers.rebuilt] at rebuilt
  cases rebuilt
  have bound : ∀ other : Hash, next.get? other.bytes =
      if header.inner.epochId = other then some roster else chain.get? other.bytes := by
    intro other
    have read := reads other.bytes
    rw [registersNext.reads, registers.reads] at read
    by_cases same : header.inner.epochId = other
    · rw [if_pos (congrArg Hash.bytes same)] at read
      rw [if_pos same]
      exact Except.ok.inj read
    · rw [if_neg fun equal => same (Hash.ext_bytes equal)] at read
      rw [if_neg same]
      exact Except.ok.inj read
  have agrees : ∀ known, chain.get? header.inner.epochId.bytes = some known →
      known.commitment = roster.commitment :=
    fun known => EpochChain.agrees_of_extend added
  refine ⟨roster, announced, committed, bound, agrees, extended, added, ?_, ?_⟩
  · intro other
    rw [EpochChain.commitment?, EpochChain.commitment?, bound, EpochChain.get?_of_extend added]
    by_cases same : header.inner.epochId = other
    · subst same
      cases before : chain.get? header.inner.epochId.bytes with
      | none => simp
      | some known => simp [agrees known before]
    · simp [same]
  · intro collisionFree other
    rw [bound, EpochChain.get?_of_extend added]
    by_cases same : header.inner.epochId = other
    · subst same
      cases before : chain.get? header.inner.epochId.bytes with
      | none => simp
      | some known =>
          have sameRoster : known = roster :=
            Roster.eq_of_commitment (collisionFree known before) (Set.mem_insert _ _)
              (Set.mem_insert_of_mem _ rfl) (agrees known before)
          simp [sameRoster]
    · simp [same]

/-- No request of an installed client but one that opens an epoch changes the chain. -/
theorem Registers.get?_of_not_opens [Signing] {request : Request} {state : ClientState}
    (registers : client.Registers records chain)
    (registersNext : client.Registers (request.effect records) next)
    (installed : client.clientState? records = .ok (some state))
    (notOpens : ∀ latest header, ¬client.OpensEpoch records request latest header)
    (epoch : Hash) : next.get? epoch.bytes = chain.get? epoch.bytes :=
  registers.get?_congr registersNext (roster?_effect_of_not_opens installed notOpens epoch.bytes)

/-- A request leaves the commitment of every epoch as it is, once the epoch has one. -/
theorem Kept.commitment_effect [Signing] (kept : client.Kept records) (request : Request)
    (registers : client.Registers records chain)
    (registersNext : client.Registers (request.effect records) next) {epoch commitment : Hash}
    (committed : chain.commitment? epoch = some commitment) :
    next.commitment? epoch = some commitment := by
  rcases kept with absent | ⟨state, kept⟩
  · have noRoster : client.roster? records epoch.bytes = .ok none :=
      readRecord?_of_missing (absent _ (by simp) _)
    have unbound : chain.get? epoch.bytes = none :=
      Except.ok.inj ((registers.reads epoch).symm.trans noRoster)
    rw [EpochChain.commitment?, unbound] at committed
    cases committed
  · by_cases opens : ∃ latest header, client.OpensEpoch records request latest header
    · rcases opens with ⟨latest, header, opens⟩
      rcases opens.opened registers registersNext with ⟨roster, opened⟩
      rw [EpochChain.commitment?, opened.bound]
      by_cases same : header.inner.epochId = epoch
      · subst same
        rcases Option.map_eq_some_iff.1 committed with ⟨known, before, rfl⟩
        simp [opened.agrees known before]
      · rw [if_neg same]
        exact committed
    · have unchanged := registers.get?_of_not_opens registersNext kept.scalars
        (fun latest header given => opens ⟨latest, header, given⟩) epoch
      rw [EpochChain.commitment?, unchanged]
      exact committed

/-! ## Runs -/

theorem Kept.exists_chain (kept : client.Kept records) :
    ∃ chain, client.Registers records chain :=
  kept.legible.exists_chain

variable [Signing]

/-- Any number of requests of any clients leave the commitment of every epoch as it is, once
the epoch has one. -/
theorem Kept.commitment_after (kept : client.Kept records) (requests : List Request)
    (registers : client.Registers records chain)
    (registersNext : client.Registers (records.after requests) next) {epoch commitment : Hash}
    (committed : chain.commitment? epoch = some commitment) :
    next.commitment? epoch = some commitment := by
  have keeps : client.Kept (records.after requests) ∧ ∀ last,
      client.Registers (records.after requests) last →
        last.commitment? epoch = some commitment := by
    refine Records.after_keeps (fun current => client.Kept current ∧ ∀ last,
      client.Registers current last → last.commitment? epoch = some commitment) ?_ ⟨kept, ?_⟩ _
    · intro current request given
      rcases given with ⟨keptCurrent, held⟩
      rcases keptCurrent.exists_chain with ⟨chainCurrent, registersCurrent⟩
      refine ⟨keptCurrent.effect_any request, ?_⟩
      intro last registersLast
      exact keptCurrent.commitment_effect request registersCurrent registersLast
        (held chainCurrent registersCurrent)
    · intro last registersLast
      have same := registers.rebuilt.symm.trans registersLast.rebuilt
      exact Except.ok.inj same ▸ committed
  exact keeps.2 next registersNext

/-- A roster that is registered under an epoch stays registered, or one with its commitment
takes its place. -/
theorem Kept.roster?_after (kept : client.Kept records) (requests : List Request) {epoch : Hash}
    {roster : Roster} (registered : client.roster? records epoch.bytes = .ok (some roster)) :
    ∃ later : Roster, client.roster? (records.after requests) epoch.bytes = .ok (some later) ∧
      later.commitment = roster.commitment := by
  rcases kept.exists_chain with ⟨chain, registers⟩
  rcases (kept.after_all requests).exists_chain with ⟨next, registersNext⟩
  have bound : chain.get? epoch.bytes = some roster :=
    Except.ok.inj ((registers.reads epoch).symm.trans registered)
  have committed : chain.commitment? epoch = some roster.commitment := by
    rw [EpochChain.commitment?, bound, Option.map_some]
  have held := kept.commitment_after requests registers registersNext committed
  rcases Option.map_eq_some_iff.1 held with ⟨later, boundLater, same⟩
  refine ⟨later, ?_, same⟩
  rw [registersNext.reads, boundLater]

end ClientId

/-- Start from a store without records of a client and make any requests, for it or for other
clients. Then its chain is found in the store. Whatever request comes next, the chain is
found again: a request that opens an epoch does so after the latest state, which names the
epoch and commits to its roster, and any other request leaves all commitments as they are
once the client is installed. Whatever requests follow, each epoch keeps its commitment. -/
theorem custody_after [Signing] {store : Store} {records : Records} {client : ClientId}
    (opened : store.content? = some records) (absent : client.Absent records)
    (requests : List Request) :
    ∃ current chain, (store.after requests).content? = some current ∧
      client.Registers current chain ∧
      (∀ request, ∃ content next,
        ((store.after requests).submit request).1.content? = some content ∧
          client.Registers content next ∧
          (∀ latest header, client.OpensEpoch current request latest header →
            ∃ roster, chain.Opened next latest header.inner.epochId roster) ∧
          ((∃ state, client.clientState? current = .ok (some state)) →
            (∀ latest header, ¬client.OpensEpoch current request latest header) →
            ∀ epoch, next.commitment? epoch = chain.commitment? epoch)) ∧
      ∀ more, ∃ content last, (store.after (requests ++ more)).content? = some content ∧
        client.Registers content last ∧
        ∀ epoch commitment, chain.commitment? epoch = some commitment →
          last.commitment? epoch = some commitment := by
  have content := Store.content?_after opened requests
  have kept : client.Kept (records.after requests) :=
    ClientId.Kept.after_all (Or.inl absent) requests
  rcases kept.exists_chain with ⟨chain, registers⟩
  refine ⟨records.after requests, chain, content, registers, ?_, ?_⟩
  · intro request
    rcases (kept.effect_any request).exists_chain with ⟨next, registersNext⟩
    refine ⟨_, next, (Store.submit_ok content request).1, registersNext, ?_, ?_⟩
    · intro latest header opens
      exact opens.opened registers registersNext
    · intro installed notOpens epoch
      rcases installed with ⟨state, installed⟩
      rw [EpochChain.commitment?,
        registers.get?_of_not_opens registersNext installed notOpens epoch]
      rfl
  · intro more
    have contentLater := Store.content?_after opened (requests ++ more)
    rw [Records.after, List.foldl_append] at contentLater
    rcases (kept.after_all more).exists_chain with ⟨last, registersLast⟩
    refine ⟨_, last, contentLater, registersLast, ?_⟩
    intro epoch commitment committed
    exact kept.commitment_after more registers registersLast committed

attribute [local instance] Signing.standard

namespace Sample

/-- The epoch after the first. -/
def nextEpoch : Hash := leafHash []

/-- The roster of the first validator alone. -/
def lone : Roster where
  validators := roster.validators.take 1
  staked := by decide
  writable := by decide

/-- A state of the first epoch that commits to this roster for the next one. -/
def committing : ConsensusState :=
  { consensusState with
    stateRoot := leafHash []
    nextEpochId := nextEpoch
    nextRosterHash := lone.commitment }

/-- Install the client with this state. -/
def installing : Request :=
  ⟨client, .standard, 0, .install trusted.clientState committing lone⟩

/-- The first block as its only validator approves it. -/
def approved : Header := header 1 [some signature]

/-- The first block, in the next epoch and with its roster. -/
def opening : Header :=
  { approved with
    inner := { approved.inner with epochId := nextEpoch }
    validators := some lone.validators }

theorem after_installing :
    Records.empty.after [installing] = Records.empty.applyAll
      (client.commitWrites trusted.clientState
        (some (trusted.clientState.latestHeight, committing))
        (some (committing.epochId.bytes, lone))) := by
  have notZero : committing.stateRoot ≠ Hash.zero := by decide +kernel
  rw [Records.after, List.foldl_cons, List.foldl_nil, installing,
    Request.effect_install rfl rfl notZero rfl]

/-- The header opens the next epoch. -/
theorem opening_opens : client.OpensEpoch (Records.empty.after [installing])
    ⟨client, .standard, 0, .update opening⟩ committing opening where
  own := rfl
  submits := rfl
  accepted := Outcome.exists_of_isOk (by decide +kernel)
  isLatest := by
    rw [after_installing]
    refine ⟨trusted.clientState, ClientId.clientState?_commit, ?_⟩
    rw [ClientId.consensusState?_commit]
    exact if_pos rfl
  leaves := by decide +kernel

end Sample

/-- After the next epoch is opened, the chain has the roster that was committed to. -/
theorem custody_after_sample :
    ∃ content next roster, ((Store.create .memory).after
        [Sample.installing, ⟨Sample.client, .standard, 0, .update Sample.opening⟩]).content? =
          some content ∧
      Sample.client.Registers content next ∧
      next.get? Sample.nextEpoch.bytes = some roster ∧
      roster.commitment = Sample.lone.commitment := by
  have opened : (Store.create .memory).content? = some Records.empty := rfl
  have absent : Sample.client.Absent Records.empty := fun _ _ _ => rfl
  rcases custody_after opened absent [Sample.installing] with
    ⟨current, chain, content, registers, step, -⟩
  rw [Store.content?_after opened] at content
  cases content
  rcases step ⟨Sample.client, .standard, 0, .update Sample.opening⟩ with
    ⟨later, next, content, registersNext, opens, -⟩
  rcases opens _ _ Sample.opening_opens with ⟨roster, openedEpoch⟩
  refine ⟨later, next, roster, content, registersNext, ?_, openedEpoch.committed⟩
  exact (openedEpoch.bound Sample.nextEpoch).trans (if_pos rfl)

end Finality
