import Finality.Proofs.Client.Pruning
import Finality.Proofs.StateTree.Tampering

/-!
# Claims about the state at a height

A claim is verified against the state that a client keeps at a height. This takes that the client
finds the state (`ClientId.Finds`) and that the proof shows the claim under its root while the
state is trusted (`ConsensusState.Shows`). If not, then the first condition that is not met
decides how the claim is turned down (`ClientId.FirstUnmet`). The records of a client always
decode, so one of the two is there (`ClientId.Legible.shows_or_unmet`), and each of them
fixes the answer, so never both.
-/

namespace Finality

/-- A proof shows a claim under the root of a state, in as many steps as are allowed, and the
state is in its trusting period. -/
structure ConsensusState.Shows (consensus : ConsensusState) (state : ClientState)
    (config : Config) (now : Int) (proof : Proof) (key : Bytes) (claim : Claim) : Prop where
  trusted : now - consensus.timestamp.toNat ≤ state.trustingPeriod.toNat
  shallow : (proof.steps.length : Int) ≤ config.limits.maxProofDepth
  sameLeaf : proof.leaf = claim.leaf key
  sameRoot : proof.root = consensus.stateRoot

namespace ClientId

/-- A client that is installed and not frozen has reached a height and keeps a state there. -/
structure Finds (client : ClientId) (records : Records) (height : Height) (state : ClientState)
    (consensus : ConsensusState) : Prop where
  installed : client.clientState? records = .ok (some state)
  live : state.frozenHeight = none
  reached : height ≤ state.latestHeight
  stored : client.consensusState? records height = .ok (some consensus)

/-- Of the conditions for a claim, all are met up to one that is not. The reason for which the
claim is turned down belongs to it, and so does the rejection. -/
inductive FirstUnmet (client : ClientId) (records : Records) (config : Config) (now : Int)
    (height : Height) (proof : Proof) (key : Bytes) (claim : Claim) : Reason → Rejection → Prop
  | notInstalled (missing : client.clientState? records = .ok none) :
      client.FirstUnmet records config now height proof key claim
        .clientNotFound (.noClient client.text)
  | frozen {state : ClientState} {frozenAt : Height}
      (installed : client.clientState? records = .ok (some state))
      (frozen : state.frozenHeight = some frozenAt) :
      client.FirstUnmet records config now height proof key claim
        .clientFrozen (.frozen frozenAt)
  | ahead {state : ClientState} (installed : client.clientState? records = .ok (some state))
      (live : state.frozenHeight = none) (ahead : state.latestHeight < height) :
      client.FirstUnmet records config now height proof key claim
        .height (.proofHeightAhead state.latestHeight height)
  | notStored {state : ClientState} (installed : client.clientState? records = .ok (some state))
      (live : state.frozenHeight = none) (reached : height ≤ state.latestHeight)
      (missing : client.consensusState? records height = .ok none) :
      client.FirstUnmet records config now height proof key claim
        .height (.noProofState height)
  | expired {state : ClientState} {consensus : ConsensusState}
      (finds : client.Finds records height state consensus)
      (late : state.trustingPeriod.toNat < now - consensus.timestamp.toNat) :
      client.FirstUnmet records config now height proof key claim
        .expiredConsensusState (.expired consensus.timestamp now state.trustingPeriod)
  | tooDeep {state : ClientState} {consensus : ConsensusState}
      (finds : client.Finds records height state consensus)
      (trusted : now - consensus.timestamp.toNat ≤ state.trustingPeriod.toNat)
      (deep : config.limits.maxProofDepth < proof.steps.length) :
      client.FirstUnmet records config now height proof key claim
        .limitExceeded (.limit .proofDepth config.limits.maxProofDepth proof.steps.length)
  | otherLeaf {state : ClientState} {consensus : ConsensusState}
      (finds : client.Finds records height state consensus)
      (trusted : now - consensus.timestamp.toNat ≤ state.trustingPeriod.toNat)
      (shallow : (proof.steps.length : Int) ≤ config.limits.maxProofDepth)
      (other : proof.leaf ≠ claim.leaf key) :
      client.FirstUnmet records config now height proof key claim
        .proofMismatch (.leafMismatch claim)
  | otherRoot {state : ClientState} {consensus : ConsensusState}
      (finds : client.Finds records height state consensus)
      (trusted : now - consensus.timestamp.toNat ≤ state.trustingPeriod.toNat)
      (shallow : (proof.steps.length : Int) ≤ config.limits.maxProofDepth)
      (sameLeaf : proof.leaf = claim.leaf key) (other : proof.root ≠ consensus.stateRoot) :
      client.FirstUnmet records config now height proof key claim
        .proofMismatch (.rootMismatch claim consensus.stateRoot.bytes proof.root)

/-- How a client answers claims: exactly under which conditions a claim is accepted, how it is
turned down if they are not all met, and that no proof shows both a value and that there is
none. -/
structure VerifiesExactly [Signing] (client : ClientId) (store : Store) (records : Records) :
    Prop where
  /-- A claim is accepted exactly if all conditions are met. -/
  accepts : ∀ config now height proof key value reply,
    (store.submit ⟨client, config, now, .membership height proof key value⟩).2 = .ok reply ↔
      reply = .done ∧ ∃ state consensus, client.Finds records height state consensus ∧
        consensus.Shows state config now proof key (.ofOption value)
  /-- A claim fails with a rejection that the first unmet condition determines. -/
  refuses : ∀ config now height proof key value failure,
    (store.submit ⟨client, config, now, .membership height proof key value⟩).2 =
        .error failure ↔
      ∃ reason rejection,
        client.FirstUnmet records config now height proof key (.ofOption value)
          reason rejection ∧
        failure = .rejected rejection ∧ rejection.report.reason = reason
  /-- Verifying that there is no value is verifying the claim of absence. -/
  absence : ∀ config now height proof key,
    store.submit ⟨client, config, now, .nonMembership height proof key⟩ =
      store.submit ⟨client, config, now, .verify height proof key .absence⟩
  /-- A proof of a value, of the empty one too, is no proof that there is none. -/
  excludesAbsence : ∀ config now height proof key value,
    (store.submit ⟨client, config, now, .membership height proof key (some value)⟩).2 =
        .ok .done →
      (store.submit ⟨client, config, now, .nonMembership height proof key⟩).2 =
        .error (.rejected (.leafMismatch .absence))
  /-- A proof that there is no value is no proof of a value, not even of the empty one. -/
  excludesValues : ∀ config now height proof key value,
    (store.submit ⟨client, config, now, .nonMembership height proof key⟩).2 = .ok .done →
      (store.submit ⟨client, config, now, .membership height proof key (some value)⟩).2 =
        .error (.rejected (.leafMismatch (.membership value)))

end ClientId

/-! ## Proofs against a state -/

section

variable {consensus : ConsensusState} {state : ClientState} {config : Config} {now : Int}
  {proof : Proof} {key : Bytes} {claim : Claim}

/-- The second look at whether the client is frozen finds it live again. -/
theorem verifyAgainst_of_live (live : state.frozenHeight = none) :
    verifyAgainst config state consensus proof key claim now =
      if consensus.isExpired now state.trustingPeriod then
        .error (.expired consensus.timestamp now state.trustingPeriod)
      else
        verifyProof consensus.stateRoot.bytes proof key claim
          (some config.limits.maxProofDepth) := by
  rw [verifyAgainst, live]

/-- A path that is not too long is not longer than the one limit that is given. -/
theorem allowsDepth {limit : Int} (shallow : (proof.steps.length : Int) ≤ limit) :
    ∀ given, some limit = some given → (proof.steps.length : Int) ≤ given := by
  intro given same
  cases same
  exact shallow

end

namespace ClientId

variable {client : ClientId} {records : Records} {config : Config} {now : Int}
  {height : Height} {state : ClientState} {consensus : ConsensusState} {proof : Proof}
  {key : Bytes} {claim : Claim} {reason : Reason} {rejection : Rejection}

/-! ## What the conditions lead to -/

theorem Finds.verifyClaim_eq (finds : client.Finds records height state consensus) :
    client.verifyClaim records config height proof key claim now =
      orReject (verifyAgainst config state consensus proof key claim now) := by
  have live := liveState_eq_ok_iff.2 ⟨finds.installed, finds.live⟩
  simp only [verifyClaim, bind, Except.bind, live, finds.stored,
    if_neg (Height.not_lt_of_le finds.reached)]

theorem Finds.verifyClaim_of_late (finds : client.Finds records height state consensus)
    (late : state.trustingPeriod.toNat < now - consensus.timestamp.toNat) :
    client.verifyClaim records config height proof key claim now =
      .error (.rejected (.expired consensus.timestamp now state.trustingPeriod)) := by
  rw [finds.verifyClaim_eq, verifyAgainst_of_live finds.live,
    if_pos (ConsensusState.isExpired_iff.2 late)]
  rfl

theorem Finds.verifyClaim_of_trusted (finds : client.Finds records height state consensus)
    (trusted : now - consensus.timestamp.toNat ≤ state.trustingPeriod.toNat) :
    client.verifyClaim records config height proof key claim now =
      orReject (verifyProof consensus.stateRoot.bytes proof key claim
        (some config.limits.maxProofDepth)) := by
  have inPeriod : ¬consensus.isExpired now state.trustingPeriod = true := by
    rw [ConsensusState.isExpired_iff]
    exact Int.not_lt.2 trusted
  rw [finds.verifyClaim_eq, verifyAgainst_of_live finds.live, if_neg inPeriod]

/-- A proof is accepted if it shows the claim. -/
theorem Finds.verifyClaim_of_shows (finds : client.Finds records height state consensus)
    (shown : consensus.Shows state config now proof key claim) :
    client.verifyClaim records config height proof key claim now = .ok () := by
  have verified : verifyProof consensus.stateRoot.bytes proof key claim
      (some config.limits.maxProofDepth) = .ok () :=
    verifyProof_eq_ok_iff.2
      ⟨allowsDepth shown.shallow, shown.sameLeaf, congrArg Hash.bytes shown.sameRoot⟩
  rw [finds.verifyClaim_of_trusted shown.trusted, verified]
  rfl

/-- A proof that is turned down itself is turned down for the same. -/
theorem Finds.verifyClaim_of_refused (finds : client.Finds records height state consensus)
    (trusted : now - consensus.timestamp.toNat ≤ state.trustingPeriod.toNat)
    (refused : verifyProof consensus.stateRoot.bytes proof key claim
      (some config.limits.maxProofDepth) = .error rejection) :
    client.verifyClaim records config height proof key claim now =
      .error (.rejected rejection) := by
  rw [finds.verifyClaim_of_trusted trusted, refused]
  rfl

/-- A proof is turned down by the first condition that is not met. -/
theorem FirstUnmet.verifyClaim_eq
    (unmet : client.FirstUnmet records config now height proof key claim reason rejection) :
    client.verifyClaim records config height proof key claim now =
      .error (.rejected rejection) := by
  cases unmet with
  | notInstalled missing =>
      simp only [verifyClaim, liveState, clientState, bind, Except.bind, missing]
      rfl
  | frozen installed frozen =>
      simp only [verifyClaim, bind, Except.bind, liveState_of_frozen installed frozen]
  | ahead installed live ahead =>
      have live := liveState_eq_ok_iff.2 ⟨installed, live⟩
      simp only [verifyClaim, bind, Except.bind, live, if_pos ahead]
      rfl
  | notStored installed live reached missing =>
      have live := liveState_eq_ok_iff.2 ⟨installed, live⟩
      simp only [verifyClaim, bind, Except.bind, live, if_neg (Height.not_lt_of_le reached),
        missing]
      rfl
  | expired finds late => exact finds.verifyClaim_of_late late
  | tooDeep finds trusted deep =>
      exact finds.verifyClaim_of_refused trusted
        (verifyProof_eq_error_iff.2 (Or.inl ⟨_, rfl, deep, rfl⟩))
  | otherLeaf finds trusted shallow other =>
      exact finds.verifyClaim_of_refused trusted
        (verifyProof_eq_error_iff.2 (Or.inr ⟨allowsDepth shallow, Or.inl ⟨other, rfl⟩⟩))
  | otherRoot finds trusted shallow sameLeaf other =>
      have otherBytes := fun same => other (Hash.ext_bytes same)
      exact finds.verifyClaim_of_refused trusted (verifyProof_eq_error_iff.2
        (Or.inr ⟨allowsDepth shallow, Or.inr ⟨sameLeaf, otherBytes, rfl⟩⟩))

/-- The rejection is reported under the reason that belongs to the condition. -/
theorem FirstUnmet.reason_eq
    (unmet : client.FirstUnmet records config now height proof key claim reason rejection) :
    rejection.report.reason = reason := by
  cases unmet <;> rfl

/-! ## No other answers -/

/-- Once the state is found, the proof shows the claim, or a condition on it is not met. -/
theorem Finds.shows_or_unmet (finds : client.Finds records height state consensus) :
    consensus.Shows state config now proof key claim ∨ ∃ reason rejection,
      client.FirstUnmet records config now height proof key claim reason rejection := by
  rcases Int.lt_or_le state.trustingPeriod.toNat (now - consensus.timestamp.toNat) with
    late | trusted
  · exact Or.inr ⟨_, _, .expired finds late⟩
  rcases Int.lt_or_le config.limits.maxProofDepth proof.steps.length with deep | shallow
  · exact Or.inr ⟨_, _, .tooDeep finds trusted deep⟩
  by_cases sameLeaf : proof.leaf = claim.leaf key
  · by_cases sameRoot : proof.root = consensus.stateRoot
    · exact Or.inl ⟨trusted, shallow, sameLeaf, sameRoot⟩
    · exact Or.inr ⟨_, _, .otherRoot finds trusted shallow sameLeaf sameRoot⟩
  · exact Or.inr ⟨_, _, .otherLeaf finds trusted shallow sameLeaf⟩

/-- The state is found, or a condition for finding it is not met. -/
theorem Legible.finds_or_unmet (legible : client.Legible records) :
    (∃ state consensus, client.Finds records height state consensus) ∨ ∃ reason rejection,
      client.FirstUnmet records config now height proof key claim reason rejection := by
  rcases legible.readsScalars with ⟨none | state, installed⟩
  · exact Or.inr ⟨_, _, .notInstalled installed⟩
  cases live : state.frozenHeight with
  | some frozenAt => exact Or.inr ⟨_, _, .frozen installed live⟩
  | none =>
      rcases Height.le_or_lt height state.latestHeight with reached | ahead
      · rcases legible.readsStates height with ⟨none | consensus, stored⟩
        · exact Or.inr ⟨_, _, .notStored installed live reached stored⟩
        · exact Or.inl ⟨state, consensus, installed, live, reached, stored⟩
      · exact Or.inr ⟨_, _, .ahead installed live ahead⟩

/-- All conditions are met, or one is the first that is not. -/
theorem Legible.shows_or_unmet (legible : client.Legible records) :
    (∃ state consensus, client.Finds records height state consensus ∧
      consensus.Shows state config now proof key claim) ∨
    ∃ reason rejection,
      client.FirstUnmet records config now height proof key claim reason rejection := by
  rcases @Legible.finds_or_unmet client records config now height proof key claim legible with
    ⟨state, consensus, finds⟩ | unmet
  · rcases @Finds.shows_or_unmet _ _ config now _ _ _ proof key claim finds with shown | unmet
    · exact Or.inl ⟨state, consensus, finds, shown⟩
    · exact Or.inr unmet
  · exact Or.inr unmet

theorem Legible.verifyClaim_eq_ok_iff_shows (legible : client.Legible records) :
    client.verifyClaim records config height proof key claim now = .ok () ↔
      ∃ state consensus, client.Finds records height state consensus ∧
        consensus.Shows state config now proof key claim := by
  constructor
  · intro passed
    rcases legible.shows_or_unmet with met | ⟨reason, rejection, unmet⟩
    · exact met
    · rw [unmet.verifyClaim_eq] at passed
      cases passed
  · rintro ⟨state, consensus, finds, shown⟩
    exact finds.verifyClaim_of_shows shown

theorem Legible.verifyClaim_eq_error_iff (legible : client.Legible records)
    {failure : Failure} :
    client.verifyClaim records config height proof key claim now = .error failure ↔
      ∃ reason rejection,
        client.FirstUnmet records config now height proof key claim reason rejection ∧
        failure = .rejected rejection ∧ rejection.report.reason = reason := by
  constructor
  · intro failed
    rcases legible.shows_or_unmet with ⟨state, consensus, finds, shown⟩ |
      ⟨reason, rejection, unmet⟩
    · rw [finds.verifyClaim_of_shows shown] at failed
      cases failed
    · rw [unmet.verifyClaim_eq] at failed
      cases failed
      exact ⟨reason, rejection, unmet, rfl, unmet.reason_eq⟩
  · rintro ⟨reason, rejection, unmet, rfl, -⟩
    exact unmet.verifyClaim_eq

/-- A claim with another leaf than one that was accepted is turned down for the leaf. -/
theorem Legible.verifyClaim_of_other_leaf (legible : client.Legible records) {known : Claim}
    (passed : client.verifyClaim records config height proof key known now = .ok ())
    (other : known.leaf key ≠ claim.leaf key) :
    client.verifyClaim records config height proof key claim now =
      .error (.rejected (.leafMismatch claim)) := by
  rcases legible.verifyClaim_eq_ok_iff_shows.1 passed with ⟨state, consensus, finds, shown⟩
  rw [← shown.sameLeaf] at other
  have unmet : client.FirstUnmet records config now height proof key claim _ _ :=
    .otherLeaf finds shown.trusted shown.shallow other
  exact unmet.verifyClaim_eq

end ClientId

/-! ## Answers -/

theorem ClientId.Legible.verifiesExactly [Signing] {client : ClientId} {store : Store}
    {records : Records} (legible : client.Legible records)
    (opened : store.content? = some records) : client.VerifiesExactly store records where
  accepts := by
    intro config now height proof key value reply
    rw [Call.membership, Store.submit_verify opened, ← legible.verifyClaim_eq_ok_iff_shows]
    cases client.verifyClaim records config height proof key (.ofOption value) now with
    | error failure => simp [Except.map]
    | ok _ => simp [Except.map, eq_comm]
  refuses := by
    intro config now height proof key value failure
    rw [Call.membership, Store.submit_verify opened, Outcome.map_eq_error_iff,
      legible.verifyClaim_eq_error_iff]
  absence := fun _ _ _ _ _ => rfl
  excludesAbsence := by
    intro config now height proof key value passed
    have shown := (Store.submit_verify_iff opened).1 passed
    have refused := legible.verifyClaim_of_other_leaf shown Claim.leaf_membership_ne_absence
    exact (Store.submit_verify opened).trans (Outcome.map_eq_error_iff.2 refused)
  excludesValues := by
    intro config now height proof key value passed
    have shown := (Store.submit_verify_iff opened).1 passed
    have otherLeaf : Claim.leaf key .absence ≠ Claim.leaf key (.membership value) :=
      Claim.leaf_membership_ne_absence.symm
    have refused := legible.verifyClaim_of_other_leaf shown otherLeaf
    exact (Store.submit_verify opened).trans (Outcome.map_eq_error_iff.2 refused)

/-- Start from a store without records of a client and make any requests, for it or for other
clients. Then a claim about the state at a height is accepted exactly if the client is installed
and not frozen, has reached the height, keeps a state there that is still trusted, and the proof
shows the claim under the root of this state in as many steps as are allowed. The first of these
conditions that is not met is the one that the rejection is about. No proof is accepted both for
a value, be it empty, and for its absence. -/
theorem verifiesExactly_after [Signing] {store : Store} {records : Records} {client : ClientId}
    (opened : store.content? = some records) (absent : client.Absent records)
    (requests : List Request) :
    ∃ content, (store.after requests).content? = some content ∧
      client.VerifiesExactly (store.after requests) content := by
  have content := Store.content?_after opened requests
  have kept : client.Kept (records.after requests) :=
    ClientId.Kept.after_all (Or.inl absent) requests
  exact ⟨_, content, kept.legible.verifiesExactly content⟩

attribute [local instance] Signing.standard

namespace Sample

/-- A state with the root that a proof leads to. -/
def rooted : ConsensusState := { consensusState with stateRoot := shown.root }

/-- Install the client with this state. -/
def rooting : Request := ⟨client, .standard, 0, .install trusted.clientState rooted lone⟩

theorem after_rooting :
    Records.empty.after [rooting] = Records.empty.applyAll
      (client.commitWrites trusted.clientState
        (some (trusted.clientState.latestHeight, rooted))
        (some (rooted.epochId.bytes, lone))) := by
  have notZero : rooted.stateRoot ≠ Hash.zero := by decide +kernel
  rw [Records.after, List.foldl_cons, List.foldl_nil, rooting,
    Request.effect_install rfl rfl notZero rfl]

theorem rooting_finds :
    client.Finds (Records.empty.after [rooting]) ⟨0, 0⟩ trusted.clientState rooted where
  installed := by
    rw [after_rooting]
    exact ClientId.clientState?_commit
  live := rfl
  reached := Height.le_refl _
  stored := by
    rw [after_rooting, ClientId.consensusState?_commit]
    exact if_pos rfl

theorem rooted_shows :
    rooted.Shows trusted.clientState .standard 1 shown [1] (.membership [5]) where
  trusted := by decide
  shallow := by decide
  sameLeaf := rfl
  sameRoot := rfl

end Sample

/-- A proof of a value is accepted while the state is trusted, but not for absence, and a moment
later it is too old. -/
theorem verifiesExactly_after_sample :
    (((Store.create .memory).after [Sample.rooting]).submit
        ⟨Sample.client, .standard, 1, .membership ⟨0, 0⟩ Sample.shown [1] (some [5])⟩).2 =
          .ok .done ∧
      (((Store.create .memory).after [Sample.rooting]).submit
        ⟨Sample.client, .standard, 1, .nonMembership ⟨0, 0⟩ Sample.shown [1]⟩).2 =
          .error (.rejected (.leafMismatch .absence)) ∧
      (((Store.create .memory).after [Sample.rooting]).submit
        ⟨Sample.client, .standard, 2, .membership ⟨0, 0⟩ Sample.shown [1] (some [5])⟩).2 =
          .error (.rejected (.expired 0 2 1)) := by
  have opened : (Store.create .memory).content? = some Records.empty := rfl
  have absent : Sample.client.Absent Records.empty := fun _ _ _ => rfl
  rcases verifiesExactly_after opened absent [Sample.rooting] with ⟨content, reached, verifies⟩
  rw [Store.content?_after opened] at reached
  obtain rfl := Option.some.inj reached
  have passed := (verifies.accepts .standard 1 ⟨0, 0⟩ Sample.shown [1] (some [5]) .done).2
    ⟨rfl, _, _, Sample.rooting_finds, Sample.rooted_shows⟩
  refine ⟨passed, verifies.excludesAbsence _ _ _ _ _ _ passed, ?_⟩
  apply (verifies.refuses _ _ _ _ _ _ _).2
  exact ⟨.expiredConsensusState, _, .expired Sample.rooting_finds (by decide), rfl, rfl⟩

end Finality
