import Mathlib.Data.Set.Function
import Finality.Digest.Tree

/-!
# Strings that are digested in a tree

The string of a leaf and that of a node start with different marks, and the string of a
node can be taken apart, since hashes have one length. So a digest that does not collide
determines what it was made from: `leafHash_ne_nodeHash`, `leaf_of_leafHash` and
`hashes_of_nodeHash`. All of them ask only that the two strings at hand do not collide.
-/

namespace Finality

/-- Whether the digests of finitely many strings collide can be computed. -/
theorem injOn_of_list {strings : Set Bytes} {all : List Bytes}
    (covers : ∀ string ∈ strings, string ∈ all)
    (distinct : ∀ left ∈ all, ∀ right ∈ all, sha256 left = sha256 right → left = right) :
    Set.InjOn sha256 strings := by
  intro left leftMember right rightMember
  exact distinct left (covers left leftMember) right (covers right rightMember)

/-- Two hashes can be told apart in the string that joins them. -/
theorem hashes_of_append {first second other another : Hash}
    (equal : first.bytes ++ second.bytes = other.bytes ++ another.bytes) :
    first = other ∧ second = another := by
  have sameSize : first.bytes.length = other.bytes.length := by
    rw [first.size_eq, other.size_eq]
  rcases List.append_inj equal sameSize with ⟨firstEqual, secondEqual⟩
  exact ⟨Hash.ext_bytes firstEqual, Hash.ext_bytes secondEqual⟩

/-- The string that the hash of a leaf is the digest of. -/
def leafString (leaf : Bytes) : Bytes := 0 :: leaf

/-- The string that the hash of a node is the digest of. -/
def nodeString (left right : Hash) : Bytes := 1 :: (left.bytes ++ right.bytes)

theorem leafHash_eq (leaf : Bytes) : leafHash leaf = sha256 (leafString leaf) := rfl

theorem nodeHash_eq (left right : Hash) :
    nodeHash left.bytes right.bytes = sha256 (nodeString left right) := rfl

section

variable {strings : Set Bytes}

/-- No leaf has the hash of a node. -/
theorem leafHash_ne_nodeHash (collisionFree : Set.InjOn sha256 strings) {leaf : Bytes}
    {left right : Hash} (leafDigested : leafString leaf ∈ strings)
    (nodeDigested : nodeString left right ∈ strings) :
    leafHash leaf ≠ nodeHash left.bytes right.bytes := by
  intro equal
  rw [leafHash_eq, nodeHash_eq] at equal
  have sameString := collisionFree leafDigested nodeDigested equal
  have sameMark : (0 : UInt8) = 1 := (List.cons.inj sameString).1
  exact absurd sameMark (by decide)

/-- The hash of a leaf determines the leaf. -/
theorem leaf_of_leafHash (collisionFree : Set.InjOn sha256 strings) {leaf other : Bytes}
    (leafDigested : leafString leaf ∈ strings) (otherDigested : leafString other ∈ strings)
    (equal : leafHash leaf = leafHash other) : leaf = other := by
  rw [leafHash_eq, leafHash_eq] at equal
  exact (List.cons.inj (collisionFree leafDigested otherDigested equal)).2

/-- The hash of a node determines the hashes of its children. -/
theorem hashes_of_nodeHash (collisionFree : Set.InjOn sha256 strings)
    {left right other another : Hash} (digested : nodeString left right ∈ strings)
    (otherDigested : nodeString other another ∈ strings)
    (equal : nodeHash left.bytes right.bytes = nodeHash other.bytes another.bytes) :
    left = other ∧ right = another := by
  rw [nodeHash_eq, nodeHash_eq] at equal
  have sameString := collisionFree digested otherDigested equal
  exact hashes_of_append (List.cons.inj sameString).2

end

/-! ## Paths -/

/-- The hash one step up a path. -/
def ProofStep.up (step : ProofStep) (hash : Hash) : Hash :=
  stepUp hash step.sibling.bytes step.side

/-- The string that is digested in one step up a path. -/
def ProofStep.string (step : ProofStep) (hash : Hash) : Bytes :=
  match step.side with
  | .left => nodeString step.sibling hash
  | .right => nodeString hash step.sibling

/-- The hash at the upper end of a path. -/
def climb (hash : Hash) : List ProofStep → Hash
  | [] => hash
  | step :: steps => climb (step.up hash) steps

/-- The strings that are digested on the way up a path. -/
def climbStrings (hash : Hash) : List ProofStep → List Bytes
  | [] => []
  | step :: steps => step.string hash :: climbStrings (step.up hash) steps

/-- The strings that are digested for the root of a proof. -/
def Proof.digested (proof : Proof) : List Bytes :=
  leafString proof.leaf :: climbStrings (leafHash proof.leaf) proof.steps

theorem climb_eq_foldl (hash : Hash) (steps : List ProofStep) :
    climb hash steps =
      (steps.map fun step => (step.sibling.bytes, step.side)).foldl
        (fun hash step => stepUp hash step.1 step.2) hash := by
  induction steps generalizing hash with
  | nil => rfl
  | cons step steps ih => exact ih (step.up hash)

theorem Proof.root_eq_climb (proof : Proof) :
    proof.root = climb (leafHash proof.leaf) proof.steps := by
  rw [climb_eq_foldl]
  rfl

end Finality
