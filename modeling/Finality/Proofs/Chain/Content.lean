import Finality.Chain.Approval
import Finality.Proofs.Digest.Tree
import Finality.Proofs.Wire.Compact

/-!
# What an approval stands for

An approval signs digests of the fields of a block, nested four deep. As long as no two of
the strings that are digested collide, a message belongs to one content only
(`BlockContent.eq_of_message`): whoever signs it has signed every field.
-/

namespace Finality

/-- The fields of a block that an approval of its header stands for. -/
structure BlockContent where
  /-- The hash of the block before. -/
  previousHash : Hash
  /-- The inner hash of the block after. -/
  nextInnerHash : Hash
  /-- The fields that light clients read. -/
  inner : InnerHeader
  /-- The hash of the fields that light clients do not read. -/
  restHash : Hash
deriving DecidableEq

/-- The content of a header: all of it but the validators and the approvals. -/
def Header.content (header : Header) : BlockContent :=
  ⟨header.previousHash, header.nextInnerHash, header.inner, header.restHash⟩

namespace BlockContent

/-- The header of a content that carries nothing else. -/
def header (content : BlockContent) : Header where
  previousHash := content.previousHash
  nextInnerHash := content.nextInnerHash
  inner := content.inner
  restHash := content.restHash
  validators := none
  approvals := []

/-- The message that approvals of a content sign. -/
def message? (content : BlockContent) : Option Bytes := content.header.approvalMessage?

/-- The strings that are digested for the message of a content, from the innermost out. -/
def digested (content : BlockContent) : List Bytes :=
  [Compact.encode .innerHeader content.inner,
    content.inner.hash.bytes ++ content.restHash.bytes,
    (combine content.inner.hash.bytes content.restHash.bytes).bytes ++
      content.previousHash.bytes,
    content.nextInnerHash.bytes ++ content.header.blockHash.bytes]

/-- Neither validators nor approvals are part of what is signed. -/
@[simp] theorem message?_content (header : Header) :
    header.content.message? = header.approvalMessage? :=
  rfl

theorem nextBlockHash_header (content : BlockContent) :
    content.header.nextBlockHash =
      sha256 (content.nextInnerHash.bytes ++ content.header.blockHash.bytes) :=
  rfl

theorem blockHash_header (content : BlockContent) :
    content.header.blockHash =
      sha256 ((combine content.inner.hash.bytes content.restHash.bytes).bytes ++
        content.previousHash.bytes) :=
  rfl

theorem inner_of_encode {left right : InnerHeader}
    (equal : Compact.encode .innerHeader left = Compact.encode .innerHeader right) :
    left = right :=
  @Compact.encode_injective .innerHeader left right (Layout.innerHeader_fits left)
    (Layout.innerHeader_fits right) equal

/-- A message ends in a height of eight bytes and has the hash of the block after before it. -/
theorem nextBlockHash_of_message {left right : Header} {message : Bytes}
    (leftSigns : left.approvalMessage? = some message)
    (rightSigns : right.approvalMessage? = some message) :
    left.nextBlockHash = right.nextBlockHash := by
  rw [Header.approvalMessage?, Option.map_eq_some_iff] at leftSigns rightSigns
  rcases leftSigns with ⟨leftHeight, -, leftMessage⟩
  rcases rightSigns with ⟨rightHeight, -, rightMessage⟩
  have equal := leftMessage.trans rightMessage.symm
  have sameSize : left.nextBlockHash.bytes.length = right.nextBlockHash.bytes.length := by
    rw [left.nextBlockHash.size_eq, right.nextBlockHash.size_eq]
  exact Hash.ext_bytes (List.append_inj (List.cons.inj equal).2 sameSize).1

/-- A message determines the content that it was made from, if the digests of the strings on
the way do not collide. -/
theorem eq_of_message {left right : BlockContent} {message : Bytes} {strings : Set Bytes}
    (collisionFree : Set.InjOn sha256 strings)
    (leftDigested : ∀ string ∈ left.digested, string ∈ strings)
    (rightDigested : ∀ string ∈ right.digested, string ∈ strings)
    (leftSigns : left.message? = some message) (rightSigns : right.message? = some message) :
    left = right := by
  simp only [digested, List.forall_mem_cons, List.not_mem_nil, false_implies, implies_true,
    and_true] at leftDigested rightDigested
  rcases leftDigested with ⟨leftInner, leftRest, leftBlock, leftNext⟩
  rcases rightDigested with ⟨rightInner, rightRest, rightBlock, rightNext⟩
  rw [message?] at leftSigns rightSigns
  have nextEqual := nextBlockHash_of_message leftSigns rightSigns
  rw [nextBlockHash_header, nextBlockHash_header] at nextEqual
  obtain ⟨nextInnerEqual, blockEqual⟩ :=
    hashes_of_append (collisionFree leftNext rightNext nextEqual)
  rw [blockHash_header, blockHash_header] at blockEqual
  obtain ⟨combinedEqual, previousEqual⟩ :=
    hashes_of_append (collisionFree leftBlock rightBlock blockEqual)
  rw [combine, combine] at combinedEqual
  obtain ⟨innerHashEqual, restEqual⟩ :=
    hashes_of_append (collisionFree leftRest rightRest combinedEqual)
  rw [InnerHeader.hash, InnerHeader.hash] at innerHashEqual
  have innerEqual := inner_of_encode (collisionFree leftInner rightInner innerHashEqual)
  cases left
  cases right
  simp only at previousEqual nextInnerEqual innerEqual restEqual
  rw [previousEqual, nextInnerEqual, innerEqual, restEqual]

end BlockContent

/-- A commitment determines its roster, if the digests of the forms of rosters do not collide. -/
theorem Roster.eq_of_commitment {left right : Roster} {forms : Set Bytes}
    (collisionFree : Set.InjOn sha256 forms)
    (leftForm : Compact.encode .roster left ∈ forms)
    (rightForm : Compact.encode .roster right ∈ forms)
    (equal : left.commitment = right.commitment) : left = right :=
  @Compact.encode_injective .roster left right (Layout.roster_fits left)
    (Layout.roster_fits right) (collisionFree leftForm rightForm equal)

end Finality
