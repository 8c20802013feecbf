import Mathlib.Data.Finset.Card
import Mathlib.Data.Nat.Log
import Finality.Proofs.StateTree.Binding

/-!
# Every key has a proof

The levels of a tree come to an end: each has half as many nodes as the one below it, until
one node is left (`StateTree.BuiltFrom`). A level is stored as it is, but its last node may be
paired with itself one level up, and the sibling of that node is then the node itself. So the
step from a node to the node over it is the same at the end of a level as anywhere else
(`StateTree.getElem?_parents`), and climbing the path of a leaf leads to the root. Hence every
key of a map has a proof that verifies, with as many steps as the tree has levels above its
leaves (`proves_every_key`).
-/

namespace Finality

namespace StateTree

/-! ## Halving levels -/

/-- The levels from a level up: as long as a level has more than one node, the level over it
follows. -/
inductive BuiltFrom : List Hash → List (List Hash) → Prop where
  | root (hash : Hash) : BuiltFrom [hash] [[hash]]
  | above {level : List Hash} {levels : List (List Hash)} (many : 1 < level.length)
      (built : BuiltFrom (parents level) levels) : BuiltFrom level (level :: levels)

theorem length_parents (level : List Hash) :
    (parents level).length = (level.length + 1) / 2 := by
  induction level using parents.induct with
  | case1 => rfl
  | case2 last => simp [parents]
  | case3 left right rest ih =>
      simp only [parents, List.length_cons, ih]
      omega

/-- The number of nodes is enough fuel, since every level has fewer nodes than the one below. -/
theorem builtFrom_levelsFrom {fuel : Nat} {level : List Hash} (inhabited : level ≠ [])
    (enough : level.length ≤ fuel + 1) : BuiltFrom level (levelsFrom fuel level) := by
  have positive : 0 < level.length := List.length_pos_iff.2 inhabited
  induction fuel generalizing level with
  | zero =>
      have single : level.length = 1 := by omega
      rcases List.length_eq_one_iff.1 single with ⟨hash, rfl⟩
      exact .root hash
  | succ fuel ih =>
      rw [levelsFrom]
      split
      · next few =>
        have single : level.length = 1 := by omega
        rcases List.length_eq_one_iff.1 single with ⟨hash, rfl⟩
        exact .root hash
      · next many =>
        have fewer : (parents level).length ≤ fuel + 1 := by
          rw [length_parents]
          omega
        have left : 0 < (parents level).length := by
          rw [length_parents]
          omega
        exact .above (by omega) (ih (parents_ne_nil inhabited) fewer left)

theorem builtFrom_levels (tree : StateTree) :
    BuiltFrom (tree.bottom.map leafHash) tree.levels := by
  rw [levels_eq]
  apply builtFrom_levelsFrom
  · simpa using bottom_ne_nil tree
  · rw [List.length_map, bottom]
    split <;> simp_all

namespace BuiltFrom

variable {level : List Hash} {levels : List (List Hash)}

theorem ne_nil (built : BuiltFrom level levels) : levels ≠ [] := by
  cases built <;> simp

/-- The number of levels above a level is the binary logarithm of its length, rounded up. -/
theorem length_eq (built : BuiltFrom level levels) :
    levels.length = Nat.clog 2 level.length + 1 := by
  induction built with
  | root hash => simp
  | @above level levels many built ih =>
      rw [List.length_cons, ih, length_parents, Nat.clog_of_one_lt Nat.one_lt_two many]
      rfl

end BuiltFrom

/-! ## Climbing -/

theorem sibling_cons_cons (left right : Hash) (rest : List Hash) (index : Nat) :
    sibling (left :: right :: rest) (index + 2) = sibling rest index := by
  rw [sibling, sibling, Nat.add_mod_right]
  split
  · next odd =>
    cases index with
    | zero => cases odd
    | succ index => rfl
  · rfl

/-- The node over a node is made from it and its sibling, whichever of the two is on the left
and whether or not the level goes on. -/
theorem getElem?_parents {level : List Hash} {index : Nat} {hash : Hash}
    (stands : level[index]? = some hash) :
    (parents level)[index / 2]? = some ((sibling level index).up hash) := by
  induction level using parents.induct generalizing index with
  | case1 => cases stands
  | case2 last =>
      cases index with
      | zero =>
          cases stands
          rfl
      | succ index => cases stands
  | case3 left right rest ih =>
      -- The first two nodes make the first node above them, the others are nodes of the rest.
      cases index with
      | zero =>
          cases stands
          rfl
      | succ index =>
          cases index with
          | zero =>
              cases stands
              rfl
          | succ index =>
              rw [sibling_cons_cons, ← ih stands, parents, Nat.add_div_right index Nat.two_pos]
              rfl

/-- Climbing the path of a node leads to the only node of the last level. -/
theorem BuiltFrom.climb_path {level : List Hash} {levels : List (List Hash)} {index : Nat}
    {hash : Hash} (built : BuiltFrom level levels) (stands : level[index]? = some hash) :
    levels.getLast? = some [climb hash (path index levels.dropLast)] := by
  induction built generalizing index hash with
  | root top =>
      cases index with
      | zero =>
          cases stands
          rfl
      | succ index => cases stands
  | @above level levels many built ih =>
      rw [List.dropLast_cons_of_ne_nil built.ne_nil, path, climb,
        ← ih (getElem?_parents stands)]
      rw [List.getLast?_cons, List.getLast?_eq_some_getLast built.ne_nil]
      rfl

theorem length_path (index : Nat) (levels : List (List Hash)) :
    (path index levels).length = levels.length := by
  induction levels generalizing index with
  | nil => rfl
  | cons level levels ih => rw [path, List.length_cons, List.length_cons, ih]

/-! ## Keys and their proofs -/

variable {tree : StateTree} {key : Bytes}

theorem getElem?_entries_of_find? {index : Nat} {claim : Claim}
    (found : tree.find? key = some (index, claim)) :
    tree.entries[index]? = some (key, claim) := by
  rw [find?, Option.map_eq_some_iff] at found
  rcases found with ⟨⟨⟨known, value⟩, place⟩, found, equal⟩
  cases equal
  have sameKey : known = key := by simpa using List.find?_some found
  rw [← sameKey]
  exact List.mem_zipIdx_iff_getElem?.1 (List.mem_of_find?_eq_some found)

theorem find?_eq_none_iff : tree.find? key = none ↔ key ∉ tree.entries.map (·.1) := by
  rw [find?, Option.map_eq_none_iff, List.find?_eq_none]
  constructor
  · intro absent present
    rcases List.mem_map.1 present with ⟨entry, member, rfl⟩
    rcases List.getElem?_of_mem member with ⟨index, stands⟩
    have apart := absent (entry, index) (List.mem_zipIdx_iff_getElem?.2 stands)
    simp at apart
  · intro absent entry member sameKey
    apply absent
    have stands := List.mem_zipIdx_iff_getElem?.1 member
    exact List.mem_map.2 ⟨entry.1, List.mem_of_getElem? stands, by simpa using sameKey⟩

theorem prove?_eq_none_iff : tree.prove? key = none ↔ key ∉ tree.entries.map (·.1) := by
  rw [prove?, Option.map_eq_none_iff, find?_eq_none_iff]

/-- A proof of a key has a step for every level below the root, and it shows the claim of the
key under the root. -/
theorem exists_proof {claim : Claim} (member : (key, claim) ∈ tree.entries) :
    ∃ proof, tree.prove? key = some proof ∧
      proof.steps.length = Nat.clog 2 tree.entries.length ∧
        proof.leaf = claim.leaf key ∧ proof.root = tree.root := by
  have present : key ∈ tree.entries.map (·.1) := List.mem_map.2 ⟨_, member, rfl⟩
  cases found : tree.find? key with
  | none => exact absurd present (find?_eq_none_iff.1 found)
  | some place =>
      rcases place with ⟨index, known⟩
      have stands := getElem?_entries_of_find? found
      have sameClaim : known = claim := by
        have knownMember := List.mem_of_getElem? stands
        have equal := List.inj_on_of_nodup_map (Entries.nodup_keys tree.ascending)
          knownMember member rfl
        exact congrArg Prod.snd equal
      subst sameClaim
      have bottomEqual : tree.bottom = tree.entries.map fun entry => entry.2.leaf entry.1 := by
        rw [bottom]
        split
        · next empty =>
          rw [empty] at member
          cases member
        · rfl
      have built := builtFrom_levels tree
      have leafStands : (tree.bottom.map leafHash)[index]? = some (leafHash (known.leaf key)) := by
        rw [bottomEqual, List.getElem?_map, List.getElem?_map, stands]
        rfl
      refine ⟨⟨known.leaf key, path index tree.levels.dropLast⟩, ?_, ?_, rfl, ?_⟩
      · rw [prove?, found]
        rfl
      · rw [length_path, List.length_dropLast, built.length_eq, bottomEqual]
        simp
      · rw [Proof.root_eq_climb, root, built.climb_path leafStands]
        rfl

/-! ## The map behind a tree -/

theorem mem_keys_ofEntries_iff {entries : List (Bytes × Claim)} :
    key ∈ (ofEntries entries).entries.map (·.1) ↔ key ∈ entries.map (·.1) := by
  have present : key ∈ (ofEntries entries).entries.map (·.1) ↔
      (entries.reverse.lookup key).isSome = true := by
    rw [Option.isSome_iff_exists]
    simp [← mem_entries_ofEntries_iff]
  rw [present, List.lookup_isSome_iff]
  constructor
  · rintro ⟨entry, member, sameKey⟩
    rw [beq_iff_eq] at sameKey
    rw [sameKey]
    exact List.mem_map.2 ⟨entry, List.mem_reverse.1 member, rfl⟩
  · intro given
    rcases List.mem_map.1 given with ⟨entry, member, rfl⟩
    exact ⟨entry, List.mem_reverse.2 member, by simp⟩

/-- A tree has an entry for each key that it is made with. -/
theorem length_ofEntries (entries : List (Bytes × Claim)) :
    (ofEntries entries).entries.length = (entries.map (·.1)).toFinset.card := by
  have distinct := Entries.nodup_keys (ofEntries entries).ascending
  have sameKeys : (entries.map (·.1)).toFinset =
      ((ofEntries entries).entries.map (·.1)).toFinset := by
    apply Finset.ext
    intro key
    rw [List.mem_toFinset, List.mem_toFinset, mem_keys_ofEntries_iff]
  rw [sameKeys, List.toFinset_card_of_nodup distinct, List.length_map]

/-- Entries that make the same map make the same tree. -/
theorem ofEntries_congr {entries others : List (Bytes × Claim)}
    (sameMap : ∀ key, others.reverse.lookup key = entries.reverse.lookup key) :
    ofEntries others = ofEntries entries := by
  have sameEntries : (ofEntries others).entries = (ofEntries entries).entries := by
    apply Entries.ext_mem (ofEntries others).ascending (ofEntries entries).ascending
    intro entry
    rcases entry with ⟨key, claim⟩
    rw [mem_entries_ofEntries_iff, mem_entries_ofEntries_iff, sameMap]
  generalize ofEntries others = left at sameEntries ⊢
  generalize ofEntries entries = right at sameEntries ⊢
  cases left
  cases right
  cases sameEntries
  rfl

end StateTree

/-- Take any map from keys to claims. The levels of its tree come to an end. Every key of the map
has a proof, whose steps are as many as the binary logarithm of the number of keys, rounded up,
and the proof shows the claim of the key under the root within every limit that allows so many
steps. Other keys have no proof. Neither the root nor a proof depends on the order in which the
map is given. -/
theorem proves_every_key (entries : List (Bytes × Claim)) :
    let tree := StateTree.ofEntries entries
    let depth := Nat.clog 2 (entries.map (·.1)).toFinset.card
    StateTree.BuiltFrom (tree.bottom.map leafHash) tree.levels ∧
      (∀ key claim, entries.reverse.lookup key = some claim →
        ∃ proof, tree.prove? key = some proof ∧ proof.steps.length = depth ∧
          ∀ limit : Int, depth ≤ limit →
            verifyProof tree.root.bytes proof key claim (some limit) = .ok ()) ∧
      (∀ key, tree.prove? key = none ↔ key ∉ entries.map (·.1)) ∧
      ∀ others : List (Bytes × Claim),
        (∀ key, others.reverse.lookup key = entries.reverse.lookup key) →
          (StateTree.ofEntries others).root = tree.root ∧
            ∀ key, (StateTree.ofEntries others).prove? key = tree.prove? key := by
  intro tree depth
  refine ⟨StateTree.builtFrom_levels tree, ?_, ?_, ?_⟩
  · intro key claim known
    have member : (key, claim) ∈ tree.entries := StateTree.mem_entries_ofEntries_iff.2 known
    rcases StateTree.exists_proof member with ⟨proof, proves, steps, leaf, root⟩
    rw [StateTree.length_ofEntries] at steps
    refine ⟨proof, proves, steps, ?_⟩
    intro limit allows
    apply verifyProof_eq_ok_iff.2
    refine ⟨?_, leaf, congrArg Hash.bytes root⟩
    rintro other ⟨⟩
    rw [steps]
    exact allows
  · intro key
    rw [StateTree.prove?_eq_none_iff, StateTree.mem_keys_ofEntries_iff]
  · intro others sameMap
    rw [StateTree.ofEntries_congr sameMap]
    exact ⟨rfl, fun _ => rfl⟩

end Finality
