import Finality.Bytes

/-!
# State proofs

A proof is the encoding of a leaf and the siblings on the path from the leaf up to the
root, each with the side that it stands on.
-/

namespace Finality

/-- The side of a sibling. -/
inductive Side where
  /-- The sibling stands to the right of the path. -/
  | right
  /-- The sibling stands to the left of the path. -/
  | left
deriving DecidableEq

namespace Side

/-- The tag of a side in both wire forms. -/
def tag : Side → Nat
  | right => 0
  | left => 1

/-- The side with a tag. -/
def ofTag? : Nat → Option Side
  | 0 => some right
  | 1 => some left
  | _ => none

/-- The side of a path's sibling, given by its number. -/
def ofPosition? (position : Int) : Option Side :=
  if 0 ≤ position then ofTag? position.toNat else none

/-- The text of the fault that a number stands for no side. -/
def invalidMessage (position : Int) : String :=
  "invalid sibling position " ++ toString position

@[simp] theorem ofTag?_tag (side : Side) : ofTag? side.tag = some side := by
  cases side <;> rfl

theorem ofTag?_eq_some_iff {tag : Nat} {side : Side} :
    ofTag? tag = some side ↔ tag = side.tag := by
  constructor
  · intro h
    match tag, h with
    | 0, h => cases h; rfl
    | 1, h => cases h; rfl
  · rintro rfl; exact ofTag?_tag side

end Side

/-- One step of a path. -/
structure ProofStep where
  sibling : Hash
  side : Side
deriving DecidableEq

/-- A leaf and the path from it to the root. -/
structure Proof where
  leaf : Bytes
  steps : List ProofStep
deriving DecidableEq

/-- What a proof claims about a key. -/
inductive Claim where
  | membership (value : Bytes)
  | absence
deriving DecidableEq

namespace Claim

/-- The claim made by an optional value. -/
def ofOption : Option Bytes → Claim
  | some value => membership value
  | none => absence

/-- The name of a claim. -/
def name : Claim → String
  | membership _ => "membership"
  | absence => "absence"

end Claim

end Finality
