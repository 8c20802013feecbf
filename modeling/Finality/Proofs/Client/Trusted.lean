import Finality.Proofs.Client.WellKept
import Finality.Proofs.Verification.Quorum

/-!
# What is trusted is there

An update is verified against the latest state and the roster of its epoch. Both are there
if the records of the client are well kept, so the snapshot is always found
(`ClientId.WellKept.exists_snapshot`), and no later step of an update complains that either
is missing. Together with the run lemma of the records this gives `wellKept_after`.
-/

namespace Finality

/-- A rejection says that a client has no state at a trusted height, or no roster for the
epoch of a trusted state. -/
def Rejection.missesTrusted : Rejection → Bool
  | noTrustedState _ | noRoster _ => true
  | _ => false

/-- A failure is a rejection for the lack of what is trusted. -/
def Failure.missesTrusted : Failure → Bool
  | rejected rejection => rejection.missesTrusted
  | _ => false

/-! ## Verification does not look at records -/

section

variable {header : Header} {rejection : Rejection}

theorem openEpoch_error {trusted : ConsensusState} {limit : Option Int}
    (failed : openEpoch trusted header limit = .error rejection) :
    rejection.missesTrusted = false := by
  rw [openEpoch] at failed
  split at failed
  · cases failed
    rfl
  · split at failed
    · cases failed
      rfl
    · split at failed
      · cases failed
        rfl
      · split at failed
        · cases failed
        · cases failed
          rfl

theorem selectRoster_error {trusted : Snapshot} {limit : Option Int}
    (failed : selectRoster trusted header limit = .error rejection) :
    rejection.missesTrusted = false := by
  rw [selectRoster] at failed
  split at failed
  · cases failed
  · split at failed
    · cases opened : openEpoch trusted.consensusState header limit with
      | ok roster =>
          rw [opened] at failed
          cases failed
      | error other =>
          rw [opened] at failed
          cases failed
          exact openEpoch_error opened
    · cases failed
      rfl

theorem tally_error [Signing] {roster : Roster} {approvals : List (Option Signature)}
    {message : Bytes}
    {workers : Int} (failed : tally roster approvals message workers = .error rejection) :
    rejection.missesTrusted = false := by
  rw [tally] at failed
  split at failed
  · cases failed
    rfl
  · rw [Tally.settle] at failed
    split at failed
    · cases failed
      rfl
    · cases failed

theorem checkLimit_error {resource : Resource} {limit : Int} {got : Nat}
    (failed : checkLimit resource limit got = .error rejection) :
    rejection.missesTrusted = false := by
  rw [checkLimit] at failed
  split at failed
  · cases failed
    rfl
  · cases failed

theorem checkTimestamp_error {state : ClientState} {trusted : ConsensusState}
    (failed : checkTimestamp state trusted header = .error rejection) :
    rejection.missesTrusted = false := by
  rw [checkTimestamp] at failed
  split at failed
  · cases failed
    rfl
  · split at failed
    · cases failed
      rfl
    · cases failed

/-- No failure of the verification of a header is for the lack of what is trusted. -/
theorem verifyHeader_fails [Signing] (config : Config) (trusted : Snapshot) (header : Header) :
    Outcome.FailsWith (fun failure => failure.missesTrusted = false)
      (verifyHeader config trusted header) := by
  rw [verifyHeader]
  split
  · refine .bind (.orReject fun _ => selectRoster_error) fun selection _ => ?_
    refine .bind (.orReject fun _ => checkLimit_error) fun _ _ => ?_
    split
    · refine .bind (.orReject fun _ => tally_error) fun stake _ => ?_
      refine .guard rfl ?_
      exact .bind (.orReject fun _ => checkTimestamp_error) fun _ _ => .ok _
    · exact .error rfl
  · exact .error rfl

end

/-! ## Updates -/

namespace ClientId

variable {client : ClientId} {records : Records} {state : ClientState}

theorem decodeRecord_fails (kind : Kind) (record : Bytes) :
    Outcome.FailsWith (fun failure => failure.missesTrusted = false)
      (decodeRecord kind record) := by
  rw [decodeRecord]
  refine .orReject ?_
  intro rejection failed
  cases decoded : Compact.decode kind record with
  | ok value =>
      rw [decoded] at failed
      cases failed
  | error fault =>
      rw [decoded] at failed
      cases failed
      rfl

theorem extend_fails (chain : EpochChain) (epoch : Bytes) (roster : Roster) :
    Outcome.FailsWith (fun failure => failure.missesTrusted = false)
      (chain.extend epoch roster) := by
  rw [EpochChain.extend]
  split
  · split
    · exact .ok _
    · exact .error rfl
  · split
    · exact .ok _
    · exact .error rfl

theorem checkEpoch_fails (verified : VerifiedHeader) :
    Outcome.FailsWith (fun failure => failure.missesTrusted = false)
      (client.checkEpoch records verified) := by
  rw [checkEpoch]
  split
  · exact .ok _
  · refine .bind ?_ fun chain _ => .bind (extend_fails chain _ _) fun _ _ => .ok _
    refine .foldlM ?_ EpochChain.empty
    intro chain entry _
    exact .bind (decodeRecord_fails _ _) fun roster _ => extend_fails chain _ roster

/-- The latest state and the roster of its epoch are there. -/
theorem WellKept.exists_snapshot (kept : client.WellKept records state) :
    ∃ trusted, client.snapshot records state state.latestHeight = .ok trusted := by
  rcases kept.latest with ⟨consensus, read, -⟩
  rcases kept.rostered _ _ read with ⟨roster, registered⟩
  exact ⟨_, snapshot_eq_ok_iff.2
    ⟨Height.lt_irrefl _, consensus, roster, read, registered, rfl⟩⟩

theorem WellKept.liveState_fails (kept : client.WellKept records state) :
    Outcome.FailsWith (fun failure => failure.missesTrusted = false)
      (client.liveState records) := by
  rw [liveState, clientState_eq_ok_iff.2 kept.scalars]
  refine .bind (.ok state) fun other _ => ?_
  split
  · exact .error rfl
  · exact .ok other

/-- An update never fails for the lack of what is trusted. -/
theorem WellKept.update_fails [Signing] (kept : client.WellKept records state) (config : Config)
    (header : Header) :
    Outcome.FailsWith (fun failure => failure.missesTrusted = false)
      (client.update records config header) := by
  refine .bind kept.liveState_fails fun live liveRead => ?_
  rcases liveState_eq_ok_iff.1 liveRead with ⟨read, -⟩
  rw [kept.scalars] at read
  cases read
  rcases kept.exists_snapshot with ⟨trusted, known⟩
  rw [known]
  refine .bind (.ok trusted) fun _ _ => ?_
  refine .bind (verifyHeader_fails config _ header) fun verified _ => ?_
  exact .bind (checkEpoch_fails verified) fun _ _ => .ok _

end ClientId

/-- Start from a store without records of a client and make any requests for it, whatever
their arguments, times and configurations. If the client is there afterwards, its records
are well kept, and an update does not fail because the latest state or the roster of its
epoch is missing. -/
theorem wellKept_after [Signing] {store : Store} {records : Records} {client : ClientId}
    {requests : List Request} (opened : store.content? = some records)
    (absent : client.Absent records) (own : ∀ request ∈ requests, request.client = client) :
    ∃ final, (store.after requests).content? = some final ∧
      (final.get? client.stateKey ≠ none →
        ∃ state, client.WellKept final state ∧
          ∀ config now header failure,
            ((store.after requests).submit ⟨client, config, now, .update header⟩).2 =
              .error failure → failure.missesTrusted = false) := by
  have content := Store.content?_after opened requests
  refine ⟨records.after requests, content, ?_⟩
  intro present
  have kept : client.Kept (records.after requests) :=
    ClientId.Kept.after own (Or.inl absent)
  rcases kept with gone | ⟨state, kept⟩
  · exact absurd (gone _ (by simp) []) present
  · refine ⟨state, kept, ?_⟩
    intro config now header failure failed
    rw [(Store.submit_ok content _).2] at failed
    have updateFails := kept.update_fails config header
    cases ran : client.update (records.after requests) config header with
    | ok accepted =>
        simp only [Request.run, ran] at failed
        cases failed
    | error other =>
        simp only [Request.run, ran] at failed
        cases failed
        exact updateFails failure ran

attribute [local instance] Signing.standard

namespace Sample

/-- A client. -/
def client : ClientId := ⟨"c", by decide, by decide⟩

/-- Install the client, advance it to the first block, prune it. -/
def requests : List Request :=
  [⟨client, .standard, 0, .install trusted.clientState
      { consensusState with stateRoot := leafHash [] } roster⟩,
    ⟨client, .standard, 0, .update first⟩,
    ⟨client, .standard, 20, .prune⟩]

/-- The client is there after the requests. -/
theorem client_present :
    (((Store.create .memory).after requests).content?.bind
      (·.get? client.stateKey)).isSome = true := by
  decide +kernel

end Sample

/-- The records of a client that was installed, advanced and pruned are well kept. -/
theorem wellKept_after_sample :
    ∃ final state, ((Store.create .memory).after Sample.requests).content? = some final ∧
      Sample.client.WellKept final state := by
  have opened : (Store.create .memory).content? = some Records.empty := rfl
  have absent : Sample.client.Absent Records.empty := fun _ _ _ => rfl
  have own : ∀ request ∈ Sample.requests, request.client = Sample.client := by
    simp [Sample.requests]
  rcases wellKept_after opened absent own with ⟨final, content, kept⟩
  have present : final.get? Sample.client.stateKey ≠ none := by
    intro missing
    have here := Sample.client_present
    rw [content, Option.bind_some, missing] at here
    cases here
  rcases kept present with ⟨state, wellKept, -⟩
  exact ⟨final, state, content, wellKept⟩

end Finality
