import Finality.Entries
import Finality.Verification.StateProof

/-!
# State trees

A state tree commits to a finite map from keys to claims. Its leaves are in the order of
the keys. Two neighbours make a node one level up; the last node of an odd level is paired
with itself. The tree of an empty map has a root of its own.
-/

namespace Finality

/-- A finite map from keys to claims, in the order of the keys. -/
structure StateTree where
  entries : Entries Claim
  ascending : Ascending entries

namespace StateTree

/-- The tree without entries. -/
def empty : StateTree := ⟨[], List.Pairwise.nil⟩

/-- Set the claim of a key. -/
def insert (key : Bytes) (claim : Claim) (tree : StateTree) : StateTree :=
  ⟨tree.entries.insert key claim, Entries.ascending_insert tree.ascending⟩

/-- The tree of a list of entries, where later ones win. -/
def ofEntries (entries : List (Bytes × Claim)) : StateTree :=
  entries.foldl (fun tree entry => tree.insert entry.1 entry.2) empty

/-- The hashes of the leaves. -/
def leaves (tree : StateTree) : List Hash :=
  tree.entries.map fun (key, claim) => leafHash (claim.leaf key)

/-- The level above a level. -/
def parents : List Hash → List Hash
  | [] => []
  | [last] => [nodeHash last.bytes last.bytes]
  | left :: right :: rest => nodeHash left.bytes right.bytes :: parents rest

/-- A level and all levels above it. The level has at most `fuel + 1` nodes. -/
def levelsFrom : (fuel : Nat) → List Hash → List (List Hash)
  | 0, level => [level]
  | fuel + 1, level =>
    if level.length ≤ 1 then [level] else level :: levelsFrom fuel (parents level)

/-- All levels, from the leaves up to the root. -/
def levels (tree : StateTree) : List (List Hash) :=
  match tree.leaves with
  | [] => [[leafHash []]]
  | leaves => levelsFrom leaves.length leaves

/-- The root of a tree. -/
def root (tree : StateTree) : Hash :=
  ((tree.levels.getLast?.bind List.head?)).getD Hash.zero

/-- The sibling of a node in its level. -/
def sibling (level : List Hash) (index : Nat) : ProofStep :=
  if index % 2 = 1 then ⟨level.getD (index - 1) Hash.zero, .left⟩
  else ⟨(level[index + 1]?).getD (level.getD index Hash.zero), .right⟩

/-- The path from a node up through levels. -/
def path (index : Nat) : List (List Hash) → List ProofStep
  | [] => []
  | level :: levels => sibling level index :: path (index / 2) levels

/-- The position and the claim of a key. -/
def find? (key : Bytes) (tree : StateTree) : Option (Nat × Claim) :=
  (tree.entries.zipIdx.find? fun entry => entry.1.1 = key).map fun entry => (entry.2, entry.1.2)

/-- Whether a key is in the tree. -/
def contains (tree : StateTree) (key : Bytes) : Bool := (tree.find? key).isSome

/-- The proof for a key of the tree. -/
def prove? (tree : StateTree) (key : Bytes) : Option Proof :=
  (tree.find? key).map fun (index, claim) =>
    ⟨claim.leaf key, path index tree.levels.dropLast⟩

end StateTree

end Finality
