import Mathlib.Data.Set.Lattice
import Finality.Proofs.Chain.Content
import Finality.Proofs.Chain.Height
import Finality.Proofs.Verification.Quorum

/-!
# Honest validators are not framed

Misbehaviour freezes a client, so nobody should be able to make it up. The blocks that
honest validators approve have one content for a height and go up in time
(`OneChain`). If validators with a third of the stake of a roster approve blocks of such a
chain only, then every header that is accepted under the roster is one of its blocks
(`AcceptedUnder.content_mem`), and two blocks of one chain never conflict
(`OneChain.findConflict_ne_ok`). So no submission is evidence (`detect_ne_evidence`).
-/

namespace Finality

/-! ## Blocks of one chain -/

/-- Blocks of which no two have the same height, and which are the later the higher they
are. -/
structure OneChain (contents : Set BlockContent) : Prop where
  unique : ∀ left ∈ contents, ∀ right ∈ contents,
    left.inner.height = right.inner.height → left = right
  ordered : ∀ low ∈ contents, ∀ high ∈ contents,
    low.inner.height < high.inner.height → low.inner.timestamp < high.inner.timestamp

/-- Two blocks of one chain do not conflict. -/
theorem OneChain.findConflict_ne_ok {contents : Set BlockContent} (chain : OneChain contents)
    {first second : Header} (firstMember : first.content ∈ contents)
    (secondMember : second.content ∈ contents) (conflict : Conflict) :
    findConflict first second ≠ .ok conflict := by
  intro found
  rw [findConflict] at found
  split at found
  · next sameHeight =>
    have equal : first.content = second.content :=
      chain.unique _ firstMember _ secondMember (Header.height_eq_iff.1 sameHeight)
    have innerEqual : first.inner = second.inner := congrArg BlockContent.inner equal
    rw [innerEqual] at found
    simp at found
  · next otherHeight =>
    have otherBlock := mt Header.height_eq_iff.2 otherHeight
    by_cases swapped : second.height < first.height
    · have later : second.inner.timestamp < first.inner.timestamp :=
        chain.ordered _ secondMember _ firstMember (Header.height_lt_iff.1 swapped)
      rw [if_pos swapped] at found
      simp only [later, ↓reduceIte] at found
      cases found
    · have above : first.inner.height < second.inner.height := by
        have notBelow := mt Header.height_lt_iff.2 swapped
        exact UInt64.lt_of_le_of_ne (UInt64.not_lt.1 notBelow) otherBlock
      have later : first.inner.timestamp < second.inner.timestamp :=
        chain.ordered _ firstMember _ secondMember above
      rw [if_neg swapped] at found
      simp only [later, ↓reduceIte] at found
      cases found

/-! ## A third that approves one chain -/

/-- The validators at some places of a roster hold a third of its stake, and what they approve
of a header are blocks of a chain: if an approval at one of the places verifies, then its
message is that of a block of the chain. -/
structure HonestThird [Signing] (contents : Set BlockContent) (roster : Roster) (header : Header)
    (positions : Finset roster.Position) : Prop where
  third : roster.total ≤ 3 * roster.stakeOf positions
  faithful : ∀ position ∈ positions, ∀ message, roster.Approves position header message →
    ∃ content ∈ contents, content.message? = some message

/-- A header that is accepted in spite of an honest third is a block of its chain. -/
theorem AcceptedUnder.content_mem [Signing] {roster : Roster} {config : Config} {trusted : Snapshot}
    {header : Header} {contents : Set BlockContent} {positions : Finset roster.Position}
    {strings : Set Bytes} (under : AcceptedUnder roster config trusted header)
    (honest : HonestThird contents roster header positions)
    (collisionFree : Set.InjOn sha256 strings)
    (headerDigested : ∀ string ∈ header.content.digested, string ∈ strings)
    (chainDigested : ∀ content ∈ contents, ∀ string ∈ content.digested, string ∈ strings) :
    header.content ∈ contents := by
  rcases under.exists_approves honest.third with ⟨position, member, message, approves⟩
  obtain ⟨content, contentMember, contentSigns⟩ :=
    honest.faithful position member message approves
  have headerSigns : header.content.message? = some message := by
    rw [BlockContent.message?_content]
    exact approves.1
  have equal := BlockContent.eq_of_message collisionFree headerDigested
    (chainDigested content contentMember) headerSigns contentSigns
  rw [equal]
  exact contentMember

/-! ## Evidence -/

/-- The strings that are digested for the messages of two headers and of the blocks of a
chain. -/
def digestedStrings (contents : Set BlockContent) (misbehaviour : Misbehaviour) : Set Bytes :=
  fun string => string ∈ misbehaviour.first.content.digested ∨
    string ∈ misbehaviour.second.content.digested ∨
      ∃ content ∈ contents, string ∈ content.digested

/-- Nothing that is submitted is evidence as long as, for each of the two headers, validators
with a third of the stake of its roster approve blocks of one chain only. -/
theorem detect_ne_evidence [Signing] {contents : Set BlockContent} {config : Config}
    {trusted : Snapshot} {misbehaviour : Misbehaviour} (chain : OneChain contents)
    (collisionFree : Set.InjOn sha256 (digestedStrings contents misbehaviour))
    (firstHonest : ∀ selection,
      selectRoster trusted misbehaviour.first (some config.limits.maxValidators) =
        .ok selection →
      ∃ positions, HonestThird contents selection.roster misbehaviour.first positions)
    (secondHonest : ∀ selection,
      selectRoster trusted misbehaviour.second (some config.limits.maxValidators) =
        .ok selection →
      ∃ positions, HonestThird contents selection.roster misbehaviour.second positions)
    (evidence : Evidence) : detect config trusted misbehaviour ≠ .ok evidence := by
  intro detected
  obtain ⟨-, firstAccepted, secondAccepted, conflict, found, -⟩ := detect_eq_ok_iff.1 detected
  have chainDigested : ∀ content ∈ contents, ∀ string ∈ content.digested,
      string ∈ digestedStrings contents misbehaviour :=
    fun content member string digested => Or.inr (Or.inr ⟨content, member, digested⟩)
  have firstMember : misbehaviour.first.content ∈ contents := by
    rcases AcceptedUnder.of_accepted firstAccepted with ⟨selection, selected, under⟩
    rcases firstHonest selection selected with ⟨positions, honest⟩
    exact under.content_mem honest collisionFree
      (fun string digested => Or.inl digested) chainDigested
  have secondMember : misbehaviour.second.content ∈ contents := by
    rcases AcceptedUnder.of_accepted secondAccepted with ⟨selection, selected, under⟩
    rcases secondHonest selection selected with ⟨positions, honest⟩
    exact under.content_mem honest collisionFree
      (fun string digested => Or.inr (Or.inl digested)) chainDigested
  exact chain.findConflict_ne_ok firstMember secondMember conflict found

/-! ## Two blocks of one chain -/

attribute [local instance] Signing.standard

namespace Sample

/-- The two blocks that the four validators sign. -/
def contents : Set BlockContent :=
  fun content => content = first.content ∨ content = second.content

/-- The blocks are of one chain. -/
theorem oneChain : OneChain contents where
  unique := by
    rintro left (rfl | rfl) right (rfl | rfl) <;> decide
  ordered := by
    rintro low (rfl | rfl) high (rfl | rfl) <;> decide

/-- The submission of both blocks as misbehaviour. -/
def misbehaviour : Misbehaviour := ⟨"", ⟨0, 0⟩, first, second⟩

/-- Everyone is honest: all approvals are for one of the blocks. -/
theorem honestThird {block : Header} (member : block.content ∈ contents) :
    HonestThird contents roster block Finset.univ where
  third := by decide
  faithful := by
    intro position _ message approves
    exact ⟨block.content, member, approves.1⟩

theorem digestedStrings_subset {string : Bytes}
    (digested : string ∈ digestedStrings contents misbehaviour) :
    string ∈ first.content.digested ++ second.content.digested := by
  rw [List.mem_append]
  obtain member | member | ⟨content, rfl | rfl, member⟩ := digested
  · exact Or.inl member
  · exact Or.inr member
  · exact Or.inl member
  · exact Or.inr member

/-- The strings that are digested for the two blocks have different digests. -/
theorem collisionFree : Set.InjOn sha256 (digestedStrings contents misbehaviour) :=
  injOn_of_list (fun _ digested => digestedStrings_subset digested) (by decide +kernel)

end Sample

/-- Both blocks are accepted, and submitting them does not freeze the client. -/
theorem detect_ne_evidence_sample :
    AcceptedUnder Sample.roster .standard Sample.trusted Sample.first ∧
      AcceptedUnder Sample.roster .standard Sample.trusted Sample.second ∧
      detect .standard Sample.trusted Sample.misbehaviour ≠ .ok ⟨⟨0, 1⟩, .timeOrder⟩ := by
  refine ⟨Sample.first_accepted, Sample.second_accepted, ?_⟩
  refine detect_ne_evidence Sample.oneChain Sample.collisionFree ?_ ?_ _
  · intro selection selected
    cases selected
    exact ⟨_, Sample.honestThird (Or.inl rfl)⟩
  · intro selection selected
    cases selected
    exact ⟨_, Sample.honestThird (Or.inr rfl)⟩

end Finality
