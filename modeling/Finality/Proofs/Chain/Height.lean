import Mathlib.Order.Bounds.Defs
import Finality.Chain.Header

/-!
# The order of heights

Heights are ordered by revision and then by block. The headers of the tracked chain have
one revision, so their heights are ordered as their blocks are.
-/

namespace Finality

namespace Height

variable {left right other : Height}

theorem lt_irrefl (height : Height) : ¬height < height := by
  intro given
  rcases given with less | ⟨-, less⟩
  · exact UInt64.lt_irrefl _ less
  · exact UInt64.lt_irrefl _ less

theorem lt_trans (first : left < right) (second : right < other) : left < other := by
  rcases first with first | ⟨sameFirst, first⟩
  · rcases second with second | ⟨sameSecond, second⟩
    · exact Or.inl (UInt64.lt_trans first second)
    · exact Or.inl (sameSecond ▸ first)
  · rcases second with second | ⟨sameSecond, second⟩
    · exact Or.inl (sameFirst ▸ second)
    · exact Or.inr ⟨sameFirst.trans sameSecond, UInt64.lt_trans first second⟩

theorem lt_of_le_of_lt (first : left ≤ right) (second : right < other) : left < other := by
  rcases first with first | rfl
  · exact lt_trans first second
  · exact second

theorem le_refl (height : Height) : height ≤ height := Or.inr rfl

theorem le_of_lt (less : left < right) : left ≤ right := Or.inl less

theorem le_trans (first : left ≤ right) (second : right ≤ other) : left ≤ other := by
  rcases second with second | rfl
  · exact le_of_lt (lt_of_le_of_lt first second)
  · exact first

theorem not_lt_of_le (given : left ≤ right) : ¬right < left := by
  intro less
  exact lt_irrefl left (lt_of_le_of_lt given less)

theorem lt_or_eq_or_lt (left right : Height) : left < right ∨ left = right ∨ right < left := by
  rcases Std.lt_trichotomy left.revision right.revision with less | same | greater
  · exact Or.inl (Or.inl less)
  · rcases Std.lt_trichotomy left.block right.block with less | sameBlock | greater
    · exact Or.inl (Or.inr ⟨same, less⟩)
    · cases left
      cases right
      cases same
      cases sameBlock
      exact Or.inr (Or.inl rfl)
    · exact Or.inr (Or.inr (Or.inr ⟨same.symm, greater⟩))
  · exact Or.inr (Or.inr (Or.inl greater))

theorem le_or_lt (left right : Height) : left ≤ right ∨ right < left := by
  rcases lt_or_eq_or_lt left right with less | rfl | greater
  · exact Or.inl (le_of_lt less)
  · exact Or.inl (le_refl left)
  · exact Or.inr greater

theorem lower_comm (left right : Height) : left.lower right = right.lower left := by
  rcases lt_or_eq_or_lt left right with less | rfl | greater
  · rw [lower, lower, if_pos less, if_neg (not_lt_of_le (le_of_lt less))]
  · rfl
  · rw [lower, lower, if_pos greater, if_neg (not_lt_of_le (le_of_lt greater))]

theorem lower_le_left (left right : Height) : left.lower right ≤ left := by
  rw [lower]
  split
  · next greater => exact le_of_lt greater
  · exact le_refl left

/-- The lower of two heights is one of them, and it is not above either. -/
theorem isLeast_lower (left right : Height) : IsLeast {left, right} (left.lower right) := by
  constructor
  · rw [lower]
    split
    · exact Or.inr rfl
    · exact Or.inl rfl
  · rintro height (rfl | rfl)
    · exact lower_le_left height right
    · rw [lower_comm]
      exact lower_le_left height left

end Height

namespace Header

variable {left right : Header}

theorem height_eq_iff : left.height = right.height ↔ left.inner.height = right.inner.height := by
  simp [height, Height.ofBlock]

theorem height_lt_iff : left.height < right.height ↔ left.inner.height < right.inner.height := by
  change ((0 : UInt64) < 0 ∨ (0 : UInt64) = 0 ∧ left.inner.height < right.inner.height) ↔ _
  simp

end Header

end Finality
