import Finality.Proofs.Chain.Content
import Finality.Proofs.Verification.Quorum

/-!
# What a relayer can change

The validators and the approvals that a header carries are not signed, so whoever relays a
block can leave them out, reorder or exchange them. That does not matter: the message that
is signed fixes the content of the block (`BlockContent.eq_of_message`), and the content and
the trusted snapshot fix the roster (`Selection.eq_of_inner`). So two accepted headers with
one message establish the same, up to the stake of the approvals they came with
(`outcome_of_message`).
-/

namespace Finality

/-- The strings that are digested for a header: those for its message, and the compact form
of the validators it carries. -/
def Header.digested (header : Header) : List Bytes :=
  header.content.digested ++ header.validators.toList.map Layout.validators.write

theorem Header.content_digested_subset {header : Header} {string : Bytes}
    (member : string ∈ header.content.digested) : string ∈ header.digested :=
  List.mem_append_left _ member

/-- The form of a roster that a header opens an epoch with is digested for it. -/
theorem Header.form_mem_digested {header : Header} {roster : Roster}
    (carried : header.validators = some roster.validators) :
    Compact.encode .roster roster ∈ header.digested := by
  refine List.mem_append_right _ ?_
  rw [carried]
  exact List.mem_singleton.2 rfl

/-- The state that a header leaves behind depends on its content only. -/
theorem Header.consensusState_of_content {left right : Header}
    (sameContent : left.content = right.content) :
    left.consensusState = right.consensusState := by
  have read (header : Header) : header.content.header.consensusState = header.consensusState :=
    rfl
  rw [← read left, sameContent, read right]

section

variable {limit otherLimit : Option Int} {trusted : Snapshot} {left right : Header}
  {strings : Set Bytes}

/-- There is only one roster with which headers can open the epoch after the trusted one, if
the digests of the forms of rosters do not collide. -/
theorem roster_of_openEpoch {state : ConsensusState} {leftRoster rightRoster : Roster}
    (collisionFree : Set.InjOn sha256 strings)
    (leftDigested : ∀ string ∈ left.digested, string ∈ strings)
    (rightDigested : ∀ string ∈ right.digested, string ∈ strings)
    (leftOpened : openEpoch state left limit = .ok leftRoster)
    (rightOpened : openEpoch state right otherLimit = .ok rightRoster) :
    leftRoster = rightRoster := by
  rcases openEpoch_eq_ok_iff.1 leftOpened with ⟨leftCarried, -, leftCommitted⟩
  rcases openEpoch_eq_ok_iff.1 rightOpened with ⟨rightCarried, -, rightCommitted⟩
  exact Roster.eq_of_commitment collisionFree
    (leftDigested _ (Header.form_mem_digested leftCarried))
    (rightDigested _ (Header.form_mem_digested rightCarried))
    (leftCommitted.trans rightCommitted.symm)

/-- Two headers of one epoch that are verified against the same snapshot have the same
roster. -/
theorem Selection.eq_of_inner {leftSelection rightSelection : Selection}
    (collisionFree : Set.InjOn sha256 strings)
    (leftDigested : ∀ string ∈ left.digested, string ∈ strings)
    (rightDigested : ∀ string ∈ right.digested, string ∈ strings)
    (sameEpoch : left.inner.epochId = right.inner.epochId)
    (leftSelected : selectRoster trusted left limit = .ok leftSelection)
    (rightSelected : selectRoster trusted right otherLimit = .ok rightSelection) :
    leftSelection = rightSelection := by
  rcases selectRoster_eq_ok_iff.1 leftSelected with
    ⟨leftTrusted, rfl⟩ | ⟨leftOther, -, leftRoster, leftOpened, rfl⟩
  · rcases selectRoster_eq_ok_iff.1 rightSelected with
      ⟨-, rfl⟩ | ⟨rightOther, -⟩
    · rfl
    · exact absurd (sameEpoch.symm.trans leftTrusted) rightOther
  · rcases selectRoster_eq_ok_iff.1 rightSelected with
      ⟨rightTrusted, rfl⟩ | ⟨-, -, rightRoster, rightOpened, rfl⟩
    · exact absurd (sameEpoch.trans rightTrusted) leftOther
    · have sameRoster := roster_of_openEpoch collisionFree leftDigested rightDigested
        leftOpened rightOpened
      rw [sameRoster]

end

/-- Whoever relays a block cannot alter what follows from it: two headers that are accepted
against one snapshot and have one message establish the same height, state, total stake and
epoch, whatever approvals and validators they carry. Only the stake behind the approvals
may differ. -/
theorem outcome_of_message [Signing] {leftConfig rightConfig : Config} {trusted : Snapshot}
    {left right : Header} {leftVerified rightVerified : VerifiedHeader}
    (collisionFree : Set.InjOn sha256
      {string | string ∈ left.digested ∨ string ∈ right.digested})
    (leftAccepted : verifyHeader leftConfig trusted left = .ok leftVerified)
    (rightAccepted : verifyHeader rightConfig trusted right = .ok rightVerified)
    (sameMessage : left.approvalMessage? = right.approvalMessage?) :
    leftVerified.height = rightVerified.height ∧
      leftVerified.consensusState = rightVerified.consensusState ∧
      leftVerified.total = rightVerified.total ∧
      leftVerified.newEpoch = rightVerified.newEpoch := by
  obtain ⟨leftSelection, message, leftStake, leftChecks, rfl⟩ :=
    verifyHeader_eq_ok_iff.1 leftAccepted
  obtain ⟨rightSelection, _, rightStake, rightChecks, rfl⟩ :=
    verifyHeader_eq_ok_iff.1 rightAccepted
  have rightSigns : right.approvalMessage? = some message :=
    sameMessage.symm.trans leftChecks.signs
  have sameContent : left.content = right.content :=
    BlockContent.eq_of_message collisionFree
      (fun _ member => Or.inl (Header.content_digested_subset member))
      (fun _ member => Or.inr (Header.content_digested_subset member))
      leftChecks.signs rightSigns
  have sameInner : left.inner = right.inner := congrArg BlockContent.inner sameContent
  have sameSelection : leftSelection = rightSelection :=
    Selection.eq_of_inner collisionFree (fun _ => Or.inl) (fun _ => Or.inr)
      (congrArg InnerHeader.epochId sameInner) leftChecks.selected rightChecks.selected
  subst sameSelection
  refine ⟨?_, Header.consensusState_of_content sameContent, rfl, ?_⟩
  · exact congrArg (fun inner => Height.ofBlock inner.height) sameInner
  · simp only [Header.established, sameInner]

/-! ## Two relayers -/

attribute [local instance] Signing.standard

namespace Sample

/-- The epoch that the four validators sign in after the trusted one. -/
def renewedEpoch : Hash := leafHash []

/-- The trusted snapshot of an epoch that the four validators follow on. -/
def renewing : Snapshot :=
  { trusted with
    consensusState :=
      { consensusState with
        nextEpochId := renewedEpoch
        nextRosterHash := roster.commitment } }

/-- The first block of the epoch after, with the approvals that one has collected. -/
def renewed (approvals : List (Option Signature)) : Header :=
  { header 1 approvals with
    inner := { (header 1 approvals).inner with epochId := renewedEpoch }
    validators := some roster.validators }

/-- One relayer has three approvals. -/
def three : Header := renewed [some signature, none, some signature, some signature]

/-- Another one has all four. -/
def four : Header := renewed (List.replicate 4 (some signature))

/-- The strings that are digested for the two headers are the same ones, and they have
different digests. -/
theorem relayed_collisionFree :
    Set.InjOn sha256 {string | string ∈ three.digested ∨ string ∈ four.digested} :=
  injOn_of_list (fun _ digested => or_self_iff.1 digested) (by decide +kernel)

theorem three_accepted : ∃ verified, verifyHeader .standard renewing three = .ok verified ∧
    (verified.verified, verified.newEpoch.isSome) = (3, true) :=
  Outcome.exists_of_map (by decide +kernel)

theorem four_accepted : ∃ verified, verifyHeader .standard renewing four = .ok verified ∧
    verified.verified = 4 :=
  Outcome.exists_of_map (by decide +kernel)

end Sample

/-- Both headers open the epoch with one roster, although more stake is behind one of them. -/
theorem outcome_of_message_sample :
    ∃ left right,
      verifyHeader .standard Sample.renewing Sample.three = .ok left ∧
      verifyHeader .standard Sample.renewing Sample.four = .ok right ∧
      left.newEpoch = right.newEpoch ∧ left.newEpoch.isSome = true ∧
      left.verified < right.verified := by
  rcases Sample.three_accepted with ⟨left, leftAccepted, leftRead⟩
  rcases Sample.four_accepted with ⟨right, rightAccepted, rightRead⟩
  obtain ⟨-, -, -, sameEpoch⟩ :=
    outcome_of_message Sample.relayed_collisionFree leftAccepted rightAccepted rfl
  obtain ⟨leftStake, opens⟩ := Prod.mk.inj leftRead
  refine ⟨left, right, leftAccepted, rightAccepted, sameEpoch, opens, ?_⟩
  rw [leftStake, rightRead]
  decide

end Finality
