import Finality.Proofs.Digest.Tree
import Finality.Verification.StateTree

/-!
# The nodes of a state tree

Every hash in a level of a tree is that of a leaf or that of a node over two hashes one
level below (`IsNode.leaf_or_node`), and the root is one of them (`isNode_root`). The
strings that are digested while a tree is built are collected in `StateTree.digested`.
-/

namespace Finality

/-- The string that is digested for a claim's leaf, if there is one. -/
def Claim.digested : Claim → List Bytes
  | membership value => [value]
  | absence => []

namespace StateTree

/-! ## Strings -/

/-- The leaves of a tree. One without entries has an empty leaf. -/
def bottom (tree : StateTree) : List Bytes :=
  match tree.entries with
  | [] => [[]]
  | entries => entries.map fun entry => entry.2.leaf entry.1

/-- The strings that are digested for the level above a level. -/
def parentStrings : List Hash → List Bytes
  | [] => []
  | [last] => [nodeString last last]
  | left :: right :: rest => nodeString left right :: parentStrings rest

/-- The strings that are digested while a tree is built: values, leaves and nodes. -/
def digested (tree : StateTree) : List Bytes :=
  tree.entries.flatMap (fun entry => entry.2.digested) ++ tree.bottom.map leafString ++
    tree.levels.dropLast.flatMap parentStrings

/-! ## Levels -/

theorem levels_eq (tree : StateTree) :
    tree.levels = levelsFrom tree.entries.length (tree.bottom.map leafHash) := by
  rw [levels, leaves, bottom]
  cases tree.entries with
  | nil => rfl
  | cons entry entries => simp [Function.comp_def]

theorem bottom_ne_nil (tree : StateTree) : tree.bottom ≠ [] := by
  rw [bottom]
  split <;> simp_all

theorem parents_ne_nil {level : List Hash} (inhabited : level ≠ []) : parents level ≠ [] := by
  cases level with
  | nil => exact absurd rfl inhabited
  | cons left rest => cases rest <;> simp [parents]

theorem levelsFrom_ne_nil (fuel : Nat) (level : List Hash) : levelsFrom fuel level ≠ [] := by
  cases fuel with
  | zero => simp [levelsFrom]
  | succ fuel =>
      rw [levelsFrom]
      split <;> simp

theorem ne_nil_of_mem_levelsFrom {fuel : Nat} {level other : List Hash}
    (inhabited : level ≠ []) (member : other ∈ levelsFrom fuel level) : other ≠ [] := by
  induction fuel generalizing level with
  | zero =>
      rw [levelsFrom, List.mem_singleton] at member
      rw [member]
      exact inhabited
  | succ fuel ih =>
      rw [levelsFrom] at member
      split at member
      · rw [List.mem_singleton] at member
        rw [member]
        exact inhabited
      · rcases List.mem_cons.1 member with same | above
        · rw [same]
          exact inhabited
        · exact ih (parents_ne_nil inhabited) above

theorem mem_parents {level : List Hash} {hash : Hash} (member : hash ∈ parents level) :
    ∃ left ∈ level, ∃ right ∈ level,
      hash = nodeHash left.bytes right.bytes ∧
        nodeString left right ∈ parentStrings level := by
  induction level using parents.induct with
  | case1 => simp [parents] at member
  | case2 last =>
      rw [parents, List.mem_singleton] at member
      exact ⟨last, by simp, last, by simp, member, by simp [parentStrings]⟩
  | case3 left right rest ih =>
      rw [parents, List.mem_cons] at member
      rcases member with here | there
      · exact ⟨left, by simp, right, by simp, here, by simp [parentStrings]⟩
      · rcases ih there with ⟨first, firstMember, second, secondMember, equal, digested⟩
        exact ⟨first, by simp [firstMember], second, by simp [secondMember], equal,
          by simp [parentStrings, digested]⟩

/-- A hash in the levels above a level is in the level itself or a node over two hashes in
one of the levels. -/
theorem mem_levelsFrom {fuel : Nat} {level other : List Hash} {hash : Hash}
    (above : other ∈ levelsFrom fuel level) (member : hash ∈ other) :
    hash ∈ level ∨ ∃ lower ∈ levelsFrom fuel level, ∃ left ∈ lower, ∃ right ∈ lower,
      hash = nodeHash left.bytes right.bytes ∧
        nodeString left right ∈ (levelsFrom fuel level).dropLast.flatMap parentStrings := by
  induction fuel generalizing level with
  | zero =>
      rw [levelsFrom, List.mem_singleton] at above
      exact Or.inl (above ▸ member)
  | succ fuel ih =>
      rw [levelsFrom] at above ⊢
      split at above
      · rw [List.mem_singleton] at above
        exact Or.inl (above ▸ member)
      · next many =>
        rw [if_neg many]
        rcases List.mem_cons.1 above with same | higher
        · exact Or.inl (same ▸ member)
        · rw [List.dropLast_cons_of_ne_nil (levelsFrom_ne_nil fuel _), List.flatMap_cons]
          rcases ih higher with parent | ⟨lower, lowerMember, left, leftMember, right,
            rightMember, equal, digested⟩
          · obtain ⟨left, leftMember, right, rightMember, equal, digested⟩ :=
              mem_parents parent
            exact Or.inr ⟨level, by simp, left, leftMember, right, rightMember, equal,
              List.mem_append_left _ digested⟩
          · exact Or.inr ⟨lower, List.mem_cons_of_mem _ lowerMember, left, leftMember, right,
              rightMember, equal, List.mem_append_right _ digested⟩

/-! ## Nodes -/

/-- A hash is in one of the levels of a tree. -/
def IsNode (tree : StateTree) (hash : Hash) : Prop := ∃ level ∈ tree.levels, hash ∈ level

variable {tree : StateTree}

theorem IsNode.leaf_or_node {hash : Hash} (node : tree.IsNode hash) :
    (∃ leaf ∈ tree.bottom, hash = leafHash leaf ∧ leafString leaf ∈ tree.digested) ∨
      ∃ left right, tree.IsNode left ∧ tree.IsNode right ∧
        hash = nodeHash left.bytes right.bytes ∧ nodeString left right ∈ tree.digested := by
  rcases node with ⟨level, levelMember, member⟩
  rw [levels_eq] at levelMember
  rcases mem_levelsFrom levelMember member with lowest | ⟨lower, lowerMember, left, leftMember,
    right, rightMember, equal, digested⟩
  · rcases List.mem_map.1 lowest with ⟨leaf, leafMember, rfl⟩
    refine Or.inl ⟨leaf, leafMember, rfl, ?_⟩
    simp only [StateTree.digested, List.mem_append, List.mem_map]
    exact Or.inl (Or.inr ⟨leaf, leafMember, rfl⟩)
  · rw [← levels_eq] at lowerMember digested
    exact Or.inr ⟨left, right, ⟨lower, lowerMember, leftMember⟩,
      ⟨lower, lowerMember, rightMember⟩, equal, List.mem_append_right _ digested⟩

theorem ne_nil_of_mem_levels {level : List Hash} (member : level ∈ tree.levels) :
    level ≠ [] := by
  rw [levels_eq] at member
  exact ne_nil_of_mem_levelsFrom (by simpa using bottom_ne_nil tree) member

theorem isNode_root (tree : StateTree) : tree.IsNode tree.root := by
  cases ends : tree.levels.getLast? with
  | none =>
      rw [List.getLast?_eq_none_iff, levels_eq] at ends
      exact absurd ends (levelsFrom_ne_nil _ _)
  | some top =>
      have member : top ∈ tree.levels := List.mem_of_getLast? ends
      cases top with
      | nil => exact absurd rfl (ne_nil_of_mem_levels member)
      | cons hash hashes =>
          have rootEqual : tree.root = hash := by rw [root, ends]; rfl
          rw [rootEqual]
          exact ⟨hash :: hashes, member, List.mem_cons_self⟩

end StateTree

end Finality
