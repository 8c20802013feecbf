import Finality.Proofs.Entries
import Finality.Proofs.StateTree.Levels

/-!
# Proofs under the root of a tree

A path may have any length and any siblings, but as long as the digests of the strings at
hand do not collide, a path that ends in a node of a tree has gone through nodes of the
tree only (`StateTree.isNode_of_climb`). The lowest of them has the mark of a leaf, so it
is a leaf of the tree, and the leaf determines its key and its claim (`Claim.of_leaf`). So
a proof shows nothing that is not in the tree (`claim_of_verifyProof`).
-/

namespace Finality

section

variable {root : Bytes} {proof : Proof} {key : Bytes} {claim : Claim} {maxDepth : Option Int}

theorem allowsDepth_iff {depth : Nat} :
    maxDepth.filter (· < (depth : Int)) = none ↔
      ∀ limit, maxDepth = some limit → (depth : Int) ≤ limit := by
  simp [Option.filter_eq_none_iff]

theorem verifyProof_eq_ok_iff :
    verifyProof root proof key claim maxDepth = .ok () ↔
      (∀ limit, maxDepth = some limit → (proof.steps.length : Int) ≤ limit) ∧
        proof.leaf = claim.leaf key ∧ proof.root.bytes = root := by
  rw [← allowsDepth_iff, verifyProof]
  cases maxDepth.filter (· < (proof.steps.length : Int)) with
  | some limit => simp
  | none =>
      simp only [true_and]
      split
      · next otherLeaf => simp [otherLeaf]
      · next sameLeaf =>
        split
        · next otherRoot => simp [otherRoot]
        · next sameRoot => simp_all

/-- How a proof is turned down: for its depth, and else for its leaf, and else for its root. -/
theorem verifyProof_eq_error_iff {rejection : Rejection} :
    verifyProof root proof key claim maxDepth = .error rejection ↔
      (∃ limit, maxDepth = some limit ∧ limit < (proof.steps.length : Int) ∧
        rejection = .limit .proofDepth limit proof.steps.length) ∨
      ((∀ limit, maxDepth = some limit → (proof.steps.length : Int) ≤ limit) ∧
        (proof.leaf ≠ claim.leaf key ∧ rejection = .leafMismatch claim ∨
          proof.leaf = claim.leaf key ∧ proof.root.bytes ≠ root ∧
            rejection = .rootMismatch claim root proof.root)) := by
  rw [verifyProof]
  cases found : maxDepth.filter (· < (proof.steps.length : Int)) with
  | some limit =>
      rcases Option.filter_eq_some_iff.1 found with ⟨rfl, passed⟩
      have deep : limit < (proof.steps.length : Int) := of_decide_eq_true passed
      constructor
      · intro failed
        cases failed
        exact Or.inl ⟨limit, rfl, deep, rfl⟩
      · intro given
        rcases given with ⟨other, same, -, rfl⟩ | ⟨allowed, -⟩
        · cases same
          rfl
        · exact absurd deep (Int.not_lt.2 (allowed limit rfl))
  | none =>
      have allowed := allowsDepth_iff.1 found
      have notDeep : ¬∃ limit, maxDepth = some limit ∧ limit < (proof.steps.length : Int) ∧
          rejection = .limit .proofDepth limit proof.steps.length := by
        intro given
        rcases given with ⟨limit, isLimit, deep, -⟩
        exact absurd deep (Int.not_lt.2 (allowed limit isLimit))
      rw [or_iff_right notDeep, and_iff_right allowed]
      by_cases sameLeaf : proof.leaf = claim.leaf key
      · by_cases sameRoot : proof.root.bytes = root
        · simp [sameLeaf, sameRoot]
        · simp [sameLeaf, sameRoot, eq_comm]
      · simp [sameLeaf, eq_comm]

end

/-! ## Leaves -/

theorem key_of_body {key other : Bytes}
    (equal : leBytes 4 key.length ++ key = leBytes 4 other.length ++ other) : key = other := by
  have sameSize : (leBytes 4 key.length).length = (leBytes 4 other.length).length := by
    rw [length_leBytes, length_leBytes]
  exact (List.append_inj equal sameSize).2

/-- The mark of a leaf tells a value from its absence, whatever the keys are. -/
theorem Claim.leaf_membership_ne_absence {key other value : Bytes} :
    Claim.leaf key (.membership value) ≠ Claim.leaf other .absence := by
  intro equal
  have sameMark : (1 : UInt8) = 0 := (List.cons.inj equal).1
  exact absurd sameMark (by decide)

/-- A leaf determines its key and its claim. The length of the key needs no bound, since the
length of the leaf gives it away as well. -/
theorem Claim.of_leaf {strings : Set Bytes} (collisionFree : Set.InjOn sha256 strings)
    {key other : Bytes} {claim known : Claim}
    (digested : ∀ string ∈ claim.digested, string ∈ strings)
    (knownDigested : ∀ string ∈ known.digested, string ∈ strings)
    (equal : claim.leaf key = known.leaf other) : key = other ∧ claim = known := by
  cases claim with
  | membership value =>
      cases known with
      | membership old =>
          have sameSize : (sha256 value).bytes.length = (sha256 old).bytes.length := by
            rw [(sha256 value).size_eq, (sha256 old).size_eq]
          obtain ⟨bodyEqual, digestEqual⟩ :=
            List.append_inj' (List.cons.inj equal).2 sameSize
          have sameValue : value = old :=
            collisionFree (digested value (by simp [Claim.digested]))
              (knownDigested old (by simp [Claim.digested])) (Hash.ext_bytes digestEqual)
          exact ⟨key_of_body bodyEqual, congrArg membership sameValue⟩
      | absence => exact absurd equal Claim.leaf_membership_ne_absence
  | absence =>
      cases known with
      | membership old => exact absurd equal Claim.leaf_membership_ne_absence.symm
      | absence => exact ⟨key_of_body (List.cons.inj equal).2, rfl⟩

namespace StateTree

variable {tree : StateTree} {strings : Set Bytes}

/-! ## Paths through a tree -/

/-- One step down: what stands below a node on a path is a node of the tree itself. -/
theorem isNode_of_up (collisionFree : Set.InjOn sha256 strings)
    (treeDigested : ∀ string ∈ tree.digested, string ∈ strings) {step : ProofStep}
    {hash : Hash} (stepDigested : step.string hash ∈ strings)
    (node : tree.IsNode (step.up hash)) : tree.IsNode hash := by
  rcases node.leaf_or_node with ⟨leaf, _, equal, leafDigested⟩ |
    ⟨left, right, leftNode, rightNode, equal, nodeDigested⟩
  · -- The step digests a string with the mark of a node, so it does not make a leaf.
    rcases step with ⟨sibling, side⟩
    cases side with
    | left =>
        exact absurd equal.symm
          (leafHash_ne_nodeHash collisionFree (treeDigested _ leafDigested) stepDigested)
    | right =>
        exact absurd equal.symm
          (leafHash_ne_nodeHash collisionFree (treeDigested _ leafDigested) stepDigested)
  · rcases step with ⟨sibling, side⟩
    cases side with
    | left =>
        obtain ⟨-, same⟩ := hashes_of_nodeHash collisionFree stepDigested
          (treeDigested _ nodeDigested) equal
        rw [same]
        exact rightNode
    | right =>
        obtain ⟨same, -⟩ := hashes_of_nodeHash collisionFree stepDigested
          (treeDigested _ nodeDigested) equal
        rw [same]
        exact leftNode

/-- A path that ends in a node of a tree starts at one. -/
theorem isNode_of_climb (collisionFree : Set.InjOn sha256 strings)
    (treeDigested : ∀ string ∈ tree.digested, string ∈ strings) {steps : List ProofStep}
    {hash : Hash} (pathDigested : ∀ string ∈ climbStrings hash steps, string ∈ strings)
    (node : tree.IsNode (climb hash steps)) : tree.IsNode hash := by
  induction steps generalizing hash with
  | nil => exact node
  | cons step steps ih =>
      rw [climbStrings, List.forall_mem_cons] at pathDigested
      rcases pathDigested with ⟨stepDigested, restDigested⟩
      exact isNode_of_up collisionFree treeDigested stepDigested (ih restDigested node)

/-- A node with the hash of a leaf is a leaf of the tree. -/
theorem mem_bottom_of_isNode (collisionFree : Set.InjOn sha256 strings)
    (treeDigested : ∀ string ∈ tree.digested, string ∈ strings) {leaf : Bytes}
    (leafDigested : leafString leaf ∈ strings) (node : tree.IsNode (leafHash leaf)) :
    leaf ∈ tree.bottom := by
  rcases node.leaf_or_node with ⟨other, member, equal, otherDigested⟩ |
    ⟨left, right, _, _, equal, nodeDigested⟩
  · rw [leaf_of_leafHash collisionFree leafDigested (treeDigested _ otherDigested) equal]
    exact member
  · exact absurd equal
      (leafHash_ne_nodeHash collisionFree leafDigested (treeDigested _ nodeDigested))

/-- A leaf of a tree that belongs to a claim is one of an entry. -/
theorem exists_entry_of_mem_bottom {key : Bytes} {claim : Claim}
    (member : claim.leaf key ∈ tree.bottom) :
    ∃ entry ∈ tree.entries, claim.leaf key = entry.2.leaf entry.1 := by
  rw [bottom] at member
  split at member
  · -- The empty leaf of a tree without entries has no mark.
    rw [List.mem_singleton] at member
    cases claim <;> cases member
  · rcases List.mem_map.1 member with ⟨entry, entryMember, equal⟩
    exact ⟨entry, entryMember, equal.symm⟩

/-- The strings that are digested for a tree, for a proof and for a claim. -/
def stringsOf (tree : StateTree) (proof : Proof) (claim : Claim) : Set Bytes :=
  fun string => string ∈ tree.digested ∨ string ∈ proof.digested ∨ string ∈ claim.digested

/-- What verifies under the root of a tree is an entry of the tree. -/
theorem mem_entries_of_verifyProof {proof : Proof} {key : Bytes} {claim : Claim}
    {maxDepth : Option Int} (collisionFree : Set.InjOn sha256 (tree.stringsOf proof claim))
    (verified : verifyProof tree.root.bytes proof key claim maxDepth = .ok ()) :
    (key, claim) ∈ tree.entries := by
  rcases verifyProof_eq_ok_iff.1 verified with ⟨-, leafEqual, rootEqual⟩
  have treeDigested : ∀ string ∈ tree.digested, string ∈ tree.stringsOf proof claim :=
    fun string digested => Or.inl digested
  have proofDigested : ∀ string ∈ proof.digested, string ∈ tree.stringsOf proof claim :=
    fun string digested => Or.inr (Or.inl digested)
  rw [Proof.digested, List.forall_mem_cons] at proofDigested
  rcases proofDigested with ⟨leafDigested, pathDigested⟩
  have rootNode : tree.IsNode (climb (leafHash proof.leaf) proof.steps) := by
    rw [← Proof.root_eq_climb, Hash.ext_bytes rootEqual]
    exact isNode_root tree
  have startNode := isNode_of_climb collisionFree treeDigested pathDigested rootNode
  have leafMember := mem_bottom_of_isNode collisionFree treeDigested leafDigested startNode
  rw [leafEqual] at leafMember
  rcases exists_entry_of_mem_bottom leafMember with ⟨⟨other, known⟩, entryMember, sameLeaf⟩
  have knownDigested : ∀ string ∈ known.digested, string ∈ tree.stringsOf proof claim := by
    intro string digested
    refine Or.inl (List.mem_append_left _ (List.mem_append_left _ ?_))
    exact List.mem_flatMap.2 ⟨(other, known), entryMember, digested⟩
  obtain ⟨sameKey, sameClaim⟩ := Claim.of_leaf collisionFree
    (fun string digested => Or.inr (Or.inr digested)) knownDigested sameLeaf
  rw [sameKey, sameClaim]
  exact entryMember

/-- The tree of a list of entries holds the last claim of every key. -/
theorem mem_entries_ofEntries_iff {entries : List (Bytes × Claim)} {key : Bytes}
    {claim : Claim} :
    (key, claim) ∈ (ofEntries entries).entries ↔ entries.reverse.lookup key = some claim := by
  have unfolded : ∀ (added : List (Bytes × Claim)) (tree : StateTree),
      (added.foldl (fun tree entry => tree.insert entry.1 entry.2) tree).entries =
        added.foldl (fun known entry => known.insert entry.1 entry.2) tree.entries := by
    intro added
    induction added with
    | nil => exact fun _ => rfl
    | cons entry added ih => exact fun tree => ih (tree.insert entry.1 entry.2)
  rw [← Entries.value?_eq_some_iff (Entries.nodup_keys (ofEntries entries).ascending),
    ofEntries, unfolded, Entries.value?_foldl_insert]
  simp [empty, Entries.value?]

end StateTree

/-- A proof that verifies under the root of a tree shows a claim that the tree was made with,
whatever siblings it carries and however many: the key is one of the map and the claim is
the one that the map has for it. So nothing verifies under the root of the empty tree. Of
the digest, only the strings of the tree, of the proof and of the claim must not
collide. -/
theorem claim_of_verifyProof {entries : List (Bytes × Claim)} {proof : Proof} {key : Bytes}
    {claim : Claim} {maxDepth : Option Int}
    (collisionFree :
      Set.InjOn sha256 ((StateTree.ofEntries entries).stringsOf proof claim))
    (verified :
      verifyProof (StateTree.ofEntries entries).root.bytes proof key claim maxDepth = .ok ()) :
    entries.reverse.lookup key = some claim :=
  StateTree.mem_entries_ofEntries_iff.1
    (StateTree.mem_entries_of_verifyProof collisionFree verified)

namespace Sample

/-- A value and an absence. -/
def entries : List (Bytes × Claim) := [([1], .membership [5]), ([2], .absence)]

/-- The proof of the value, with the leaf of the absence beside it. -/
def proof : Proof where
  leaf := Claim.leaf [1] (.membership [5])
  steps := [⟨leafHash (Claim.leaf [2] .absence), .right⟩]

theorem proof_verified :
    verifyProof (StateTree.ofEntries entries).root.bytes proof [1] (.membership [5]) (some 1) =
      .ok () := by
  refine verifyProof_eq_ok_iff.2 ⟨?_, rfl, by decide +kernel⟩
  rintro limit ⟨⟩
  decide

/-- The strings that are digested for the tree and the proof have different digests. -/
theorem tree_collisionFree :
    Set.InjOn sha256 ((StateTree.ofEntries entries).stringsOf proof (.membership [5])) := by
  have distinct : ∀ left ∈ (StateTree.ofEntries entries).digested ++ proof.digested ++ [[5]],
      ∀ right ∈ (StateTree.ofEntries entries).digested ++ proof.digested ++ [[5]],
        sha256 left = sha256 right → left = right := by
    decide +kernel
  refine injOn_of_list ?_ distinct
  rintro string (digested | digested | digested)
  · exact List.mem_append_left _ (List.mem_append_left _ digested)
  · exact List.mem_append_left _ (List.mem_append_right _ digested)
  · exact List.mem_append_right _ digested

end Sample

/-- The proof of a value in a tree of two entries shows the value. -/
theorem claim_of_verifyProof_sample :
    verifyProof (StateTree.ofEntries Sample.entries).root.bytes Sample.proof [1]
        (.membership [5]) (some 1) = .ok () ∧
      Sample.entries.reverse.lookup [1] = some (.membership [5]) :=
  ⟨Sample.proof_verified, claim_of_verifyProof Sample.tree_collisionFree Sample.proof_verified⟩

end Finality
