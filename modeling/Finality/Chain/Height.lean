/-!
# Heights

A height is a revision number and a block height within the revision. Heights are ordered
by revision first. The tracked chain never changes revision, so its blocks all have
revision zero.
-/

namespace Finality

/-- A position in the tracked chain. -/
structure Height where
  revision : UInt64
  block : UInt64
deriving DecidableEq, Inhabited

namespace Height

/-- The height of a block of the tracked chain. -/
def ofBlock (block : UInt64) : Height := ⟨0, block⟩

instance : LT Height where
  lt left right := left.revision < right.revision ∨
    (left.revision = right.revision ∧ left.block < right.block)

instance : LE Height where
  le left right := left < right ∨ left = right

instance (left right : Height) : Decidable (left < right) :=
  inferInstanceAs (Decidable (_ ∨ _ ∧ _))

instance (left right : Height) : Decidable (left ≤ right) :=
  inferInstanceAs (Decidable (_ ∨ _))

/-- The lower of two heights. -/
def lower (left right : Height) : Height := if right < left then right else left

/-- A height in text: both numbers with a dash between them. -/
def text (height : Height) : String :=
  toString height.revision.toNat ++ "-" ++ toString height.block.toNat

end Height

end Finality
