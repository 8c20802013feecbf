import Mathlib.Algebra.Order.Ring.Nat
import Finality.Datum

/-!
# Equal integers

An integer can be computed from its exact form (`Exact.ofInt_injective`), so two integers are
equal numbers only if they are the same (`Datum.sameNumber_int_iff`).
-/

namespace Finality

namespace Exact

/-- A number is what is left of it times the power that was split off. -/
theorem split_mul_pow (factor fuel value : Nat) :
    (split factor fuel value).1 * factor ^ (split factor fuel value).2 = value := by
  induction fuel generalizing value with
  | zero => simp [split]
  | succ fuel ih =>
      rw [split]
      split
      · next divides =>
        have divisible : factor ∣ value := Nat.dvd_of_mod_eq_zero divides.2
        rw [pow_succ, ← mul_assoc, ih (value / factor), Nat.div_mul_cancel divisible]
      · simp

/-- The magnitude of a number without a denominator. -/
def magnitude (value : Exact) : Nat :=
  value.numerator * 5 ^ value.fives.toNat * 2 ^ value.twos.toNat

theorem magnitude_ofInt (value : Int) : (ofInt value).magnitude = value.natAbs := by
  by_cases zero : value.natAbs = 0
  · rw [ofInt, ofParts, if_pos zero, zero, magnitude, Nat.zero_mul, Nat.zero_mul]
  · have twos := split_mul_pow 2 (value.natAbs.log2 + 1) value.natAbs
    have fives := split_mul_pow 5
      ((split 2 (value.natAbs.log2 + 1) value.natAbs).1.log2 + 1)
      (split 2 (value.natAbs.log2 + 1) value.natAbs).1
    rw [ofInt, ofParts, if_neg zero]
    -- The denominator is one, from which no power can be split off.
    have noTwos : split 2 (Nat.log2 1 + 1) 1 = (1, 0) := by decide
    have noFives : split 5 (Nat.log2 1 + 1) 1 = (1, 0) := by decide
    simp [magnitude, noTwos, noFives, fives, twos]

theorem negative_ofInt (value : Int) : (ofInt value).negative = decide (value < 0) := by
  rw [ofInt, ofParts]
  split
  · next zero => simp [Int.natAbs_eq_zero.1 zero]
  · rfl

theorem ofInt_injective {left right : Int} (same : ofInt left = ofInt right) : left = right := by
  have magnitudes : left.natAbs = right.natAbs := by
    rw [← magnitude_ofInt, same, magnitude_ofInt]
  have signs : decide (left < 0) = decide (right < 0) := by
    rw [← negative_ofInt, same, negative_ofInt]
  have sameSign : left < 0 ↔ right < 0 := by simpa using signs
  omega

end Exact

theorem Datum.sameNumber_int_iff {left right : Int} :
    (Datum.int left).sameNumber (.int right) = true ↔ left = right := by
  constructor
  · intro same
    have forms : (Exact.ofInt left == Exact.ofInt right) = true := (Bool.and_eq_true_iff.1 same).1
    exact Exact.ofInt_injective (beq_iff_eq.1 forms)
  · rintro rfl
    simp [sameNumber, number?, Extended.same, Extended.zero]

end Finality
