import Finality.Chain.Proof
import Finality.Digest.Sha2

/-!
# Hash trees

Blocks are linked by the digest of two hashes put together. State trees keep leaves and
inner nodes apart by a byte in front of what is hashed: zero for a leaf, one for a node.
-/

namespace Finality

/-- The digest of two byte strings put together. -/
def combine (first second : Bytes) : Hash := sha256 (first ++ second)

/-- The hash of a leaf. -/
def leafHash (leaf : Bytes) : Hash := sha256 (0 :: leaf)

/-- The hash of a node over the hashes of its two children. -/
def nodeHash (left right : Bytes) : Hash := sha256 (1 :: (left ++ right))

/-- One step up a path: the hash of the node over a hash and its sibling. -/
def stepUp (hash : Hash) (sibling : Bytes) : Side → Hash
  | .left => nodeHash sibling hash.bytes
  | .right => nodeHash hash.bytes sibling

/-- The root over a leaf, given the siblings on its path from the lowest up. -/
def foldPath (leaf : Bytes) (path : List (Bytes × Side)) : Hash :=
  path.foldl (fun hash step => stepUp hash step.1 step.2) (leafHash leaf)

/-- The root that a proof leads to. -/
def Proof.root (proof : Proof) : Hash :=
  foldPath proof.leaf (proof.steps.map fun step => (step.sibling.bytes, step.side))

end Finality
