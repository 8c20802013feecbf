import Finality.Proofs.StateTree.Binding

/-!
# Tampered proofs

A step up a path digests both hashes that it joins, each on its own side. So two steps with the
same side that lead to the same hash come from the same hash and have the same sibling
(`ProofStep.eq_of_up`), and two paths with the same sides that lead to the same hash are one path
(`eq_of_climb`): changes at several steps cannot make up for one another. Nothing is asked of the
hash at the end, so a proof that was tampered with is turned down whatever the root is
(`tampered_proof_mismatches`).
-/

namespace Finality

namespace Proof

/-- The sides of the siblings, from the lowest up. -/
def sides (proof : Proof) : List Side := proof.steps.map (·.side)

/-- The siblings, from the lowest up. -/
def siblings (proof : Proof) : List Hash := proof.steps.map (·.sibling)

/-- The strings that are digested for the roots of two proofs. -/
def stringsOfBoth (proof other : Proof) : Set Bytes :=
  fun string => string ∈ proof.digested ∨ string ∈ other.digested

/-- A proof has the shape of another one, but not its leaf or not all of its siblings. -/
structure TampersWith (tampered proof : Proof) : Prop where
  sameSides : tampered.sides = proof.sides
  differs : tampered.leaf ≠ proof.leaf ∨ tampered.siblings ≠ proof.siblings

end Proof

section

variable {strings : Set Bytes}

/-- A step is determined by its side and by where it leads, and so is the hash it starts at. -/
theorem ProofStep.eq_of_up (collisionFree : Set.InjOn sha256 strings) {step other : ProofStep}
    {hash start : Hash} (sameSide : step.side = other.side)
    (digested : step.string hash ∈ strings) (otherDigested : other.string start ∈ strings)
    (equal : step.up hash = other.up start) : hash = start ∧ step = other := by
  rcases step with ⟨sibling, side⟩
  rcases other with ⟨otherSibling, otherSide⟩
  cases sameSide
  cases side with
  | left =>
      obtain ⟨sameSibling, sameHash⟩ :=
        hashes_of_nodeHash collisionFree digested otherDigested equal
      exact ⟨sameHash, congrArg (ProofStep.mk · .left) sameSibling⟩
  | right =>
      obtain ⟨sameHash, sameSibling⟩ :=
        hashes_of_nodeHash collisionFree digested otherDigested equal
      exact ⟨sameHash, congrArg (ProofStep.mk · .right) sameSibling⟩

/-- A path is determined by its sides and by where it leads, and so is the hash it starts at. -/
theorem eq_of_climb (collisionFree : Set.InjOn sha256 strings) {steps others : List ProofStep}
    {hash start : Hash} (sameSides : steps.map (·.side) = others.map (·.side))
    (digested : ∀ string ∈ climbStrings hash steps, string ∈ strings)
    (otherDigested : ∀ string ∈ climbStrings start others, string ∈ strings)
    (equal : climb hash steps = climb start others) : hash = start ∧ steps = others := by
  induction steps generalizing others hash start with
  | nil =>
      cases others with
      | nil => exact ⟨equal, rfl⟩
      | cons other others => cases sameSides
  | cons step steps ih =>
      cases others with
      | nil => cases sameSides
      | cons other others =>
          rw [climbStrings, List.forall_mem_cons] at digested otherDigested
          rcases digested with ⟨stepDigested, restDigested⟩
          rcases otherDigested with ⟨otherStepDigested, otherRestDigested⟩
          obtain ⟨sameSide, sameRest⟩ := List.cons.inj sameSides
          -- From the top down: the paths above the step agree, so both steps lead to one hash.
          obtain ⟨sameUp, restEqual⟩ := ih sameRest restDigested otherRestDigested equal
          obtain ⟨sameHash, stepEqual⟩ :=
            ProofStep.eq_of_up collisionFree sameSide stepDigested otherStepDigested sameUp
          rw [stepEqual, restEqual]
          exact ⟨sameHash, rfl⟩

end

/-- A proof is determined by its sides and its root. -/
theorem Proof.eq_of_root {proof other : Proof}
    (collisionFree : Set.InjOn sha256 (proof.stringsOfBoth other))
    (sameSides : proof.sides = other.sides) (sameRoot : proof.root = other.root) :
    proof = other := by
  have digested : ∀ string ∈ proof.digested, string ∈ proof.stringsOfBoth other :=
    fun string member => Or.inl member
  have otherDigested : ∀ string ∈ other.digested, string ∈ proof.stringsOfBoth other :=
    fun string member => Or.inr member
  rw [Proof.digested, List.forall_mem_cons] at digested otherDigested
  rw [root_eq_climb, root_eq_climb] at sameRoot
  obtain ⟨sameLeafHash, sameSteps⟩ :=
    eq_of_climb collisionFree sameSides digested.2 otherDigested.2 sameRoot
  have sameLeaf : proof.leaf = other.leaf :=
    leaf_of_leafHash collisionFree digested.1 otherDigested.1 sameLeafHash
  cases proof
  cases other
  cases sameLeaf
  cases sameSteps
  rfl

/-- If a proof shows a claim under a root, then a proof with the same sides, but with another leaf
or with other siblings anywhere on the path, is turned down as one that does not match: for its
leaf if that is another one, and else for the root that it leads to. The root may be any. Of the
digest, only the strings of the two paths must not collide. -/
theorem tampered_proof_mismatches {root key : Bytes} {claim : Claim} {maxDepth : Option Int}
    {proof tampered : Proof} (collisionFree : Set.InjOn sha256 (proof.stringsOfBoth tampered))
    (verified : verifyProof root proof key claim maxDepth = .ok ())
    (tampers : tampered.TampersWith proof) :
    ∃ rejection, verifyProof root tampered key claim maxDepth = .error rejection ∧
      rejection.report.reason = .proofMismatch ∧
      rejection = if tampered.leaf = proof.leaf then .rootMismatch claim root tampered.root
        else .leafMismatch claim := by
  rcases verifyProof_eq_ok_iff.1 verified with ⟨allowed, leafEqual, rootEqual⟩
  have sameDepth : tampered.steps.length = proof.steps.length := by
    have sameLength := congrArg List.length tampers.sameSides
    simpa only [Proof.sides, List.length_map] using sameLength
  rw [← sameDepth] at allowed
  by_cases sameLeaf : tampered.leaf = proof.leaf
  · have otherRoot : tampered.root.bytes ≠ root := by
      intro sameRoot
      have equal : proof = tampered := Proof.eq_of_root collisionFree tampers.sameSides.symm
        (Hash.ext_bytes (rootEqual.trans sameRoot.symm))
      rcases tampers.differs with otherLeaf | otherSiblings
      · exact otherLeaf sameLeaf
      · exact otherSiblings (congrArg Proof.siblings equal.symm)
    rw [if_pos sameLeaf]
    refine ⟨.rootMismatch claim root tampered.root, verifyProof_eq_error_iff.2 ?_, rfl, rfl⟩
    exact Or.inr ⟨allowed, Or.inr ⟨sameLeaf.trans leafEqual, otherRoot, rfl⟩⟩
  · have otherLeaf : tampered.leaf ≠ claim.leaf key := by
      rw [← leafEqual]
      exact sameLeaf
    rw [if_neg sameLeaf]
    refine ⟨.leafMismatch claim, verifyProof_eq_error_iff.2 ?_, rfl, rfl⟩
    exact Or.inr ⟨allowed, Or.inl ⟨otherLeaf, rfl⟩⟩

namespace Sample

/-- A proof of a value under the root that its path leads to, with any siblings. -/
def shown : Proof where
  leaf := Claim.leaf [1] (.membership [5])
  steps := [⟨.zero, .left⟩, ⟨leafHash [], .right⟩]

/-- The proof with its siblings exchanged. -/
def exchanged : Proof where
  leaf := shown.leaf
  steps := [⟨leafHash [], .left⟩, ⟨.zero, .right⟩]

/-- The strings that are digested for the two proofs have different digests. -/
theorem exchanged_collisionFree : Set.InjOn sha256 (shown.stringsOfBoth exchanged) := by
  refine injOn_of_list (fun string digested => List.mem_append.2 digested) ?_
  decide +kernel

theorem exchanged_tampers : exchanged.TampersWith shown where
  sameSides := rfl
  differs := Or.inr (by decide +kernel)

end Sample

/-- Exchanging the siblings of a proof makes it lead to another root. -/
theorem tampered_proof_mismatches_sample :
    verifyProof Sample.shown.root.bytes Sample.shown [1] (.membership [5]) (some 2) = .ok () ∧
      verifyProof Sample.shown.root.bytes Sample.exchanged [1] (.membership [5]) (some 2) =
        .error (.rootMismatch (.membership [5]) Sample.shown.root.bytes Sample.exchanged.root) := by
  have verified : verifyProof Sample.shown.root.bytes Sample.shown [1] (.membership [5])
      (some 2) = .ok () := by
    refine verifyProof_eq_ok_iff.2 ⟨?_, rfl, rfl⟩
    rintro limit ⟨⟩
    decide
  rcases tampered_proof_mismatches Sample.exchanged_collisionFree verified
    Sample.exchanged_tampers with ⟨rejection, mismatches, -, same⟩
  have sameLeaf : Sample.exchanged.leaf = Sample.shown.leaf := rfl
  rw [same, if_pos sameLeaf] at mismatches
  exact ⟨verified, mismatches⟩

end Finality
