import Finality.Proofs.Text.Class
import Finality.Text.Case

/-!
# Names in either case

A text folds to an ASCII name exactly if the name is its lower-case form
(`Text.lower_eq_iff_fold`). On ASCII the two agree. Beyond ASCII they may differ, but there neither
comes to an ASCII character alone, except for the Kelvin sign, which both take for a k.
-/

namespace Finality.Text

/-- The sign for kelvin, whose lower-case form is a letter of ASCII. -/
def kelvin : Char := Char.ofNat 0x212a

/-- Only the run of the Kelvin sign leads to ASCII. All others lead to characters on one side of the
surrogates. -/
theorem lowerRuns_beyond : ∀ first last step target, (first, last, step, target) ∈ lowerRuns →
    (first = 0x212a ∧ last = 0x212a) ∨
      128 ≤ target ∧ (target + (last - first) < 0xd800 ∨
        0xe000 ≤ target ∧ target + (last - first) < 0x110000) := by
  have all : ∀ run ∈ lowerRuns, (run.1 = 0x212a ∧ run.2.1 = 0x212a) ∨
      128 ≤ run.2.2.2 ∧ (run.2.2.2 + (run.2.1 - run.1) < 0xd800 ∨
        0xe000 ≤ run.2.2.2 ∧ run.2.2.2 + (run.2.1 - run.1) < 0x110000) := by
    decide +kernel
  exact fun first last step target member => all _ member

section

variable {char : Char}

theorem foldChar_of_ne (other : char ≠ kelvin) : foldChar char = char.toLower := if_neg other

theorem foldChar_beyond (beyond : 128 ≤ char.toNat) (other : char ≠ kelvin) :
    foldChar char = char := by
  rw [foldChar_of_ne other]
  exact toLower_of_not_upper (by omega)

/-- What folds to an ASCII character is one, or the Kelvin sign. -/
theorem ascii_or_kelvin (folded : (foldChar char).toNat < 128) :
    char.toNat < 128 ∨ char = kelvin := by
  by_contra neither
  rw [not_or] at neither
  rw [foldChar_beyond (Nat.le_of_not_lt neither.1) neither.2] at folded
  exact neither.1 folded

/-- The lower-case form of a character beyond ASCII is not in ASCII alone. -/
theorem exists_mem_lowerChar (beyond : 128 ≤ char.toNat) (other : char ≠ kelvin) :
    ∃ lowered ∈ lowerChar char, 128 ≤ lowered.toNat := by
  have unlike : char.toNat ≠ 0x212a := by
    intro equal
    exact other (Char.toNat_inj.1 equal)
  simp only [lowerChar, if_neg (Nat.not_lt.2 beyond)]
  split
  · exact ⟨Char.ofNat 0x307, by simp, by decide⟩
  · split
    · next first last step target found =>
      have within := List.find?_some found
      simp only [Bool.and_eq_true, decide_eq_true_iff] at within
      refine ⟨_, List.mem_singleton_self _, ?_⟩
      rcases lowerRuns_beyond _ _ _ _ (List.mem_of_find?_eq_some found) with
        ⟨rfl, rfl⟩ | ⟨high, side⟩
      · omega
      · rw [toNat_ofNat_of_isValidChar]
        · omega
        · rw [Nat.isValidChar]
          omega
    · exact ⟨char, List.mem_singleton_self _, beyond⟩

/-- A character has one lower-case form in ASCII, which is what it folds to, or none. -/
theorem lowerChar_cases (char : Char) : lowerChar char = [foldChar char] ∨
    (∃ lowered ∈ lowerChar char, 128 ≤ lowered.toNat) ∧ 128 ≤ (foldChar char).toNat := by
  by_cases ascii : char.toNat < 128
  · left
    have other : char ≠ kelvin := by
      rintro rfl
      exact absurd ascii (by decide)
    rw [lowerChar, if_pos ascii, foldChar_of_ne other]
  · by_cases isKelvin : char = kelvin
    · left
      subst isKelvin
      decide +kernel
    · right
      have beyond := Nat.le_of_not_lt ascii
      refine ⟨exists_mem_lowerChar beyond isKelvin, ?_⟩
      rwa [foldChar_beyond beyond isKelvin]

end

/-- An ASCII name is the lower-case form of what folds to it. -/
theorem lower_eq_iff_fold {text name : List Char} (ascii : ∀ char ∈ name, char.toNat < 128) :
    lower text = name ↔ text.map foldChar = name := by
  induction text generalizing name with
  | nil => rfl
  | cons char text ih =>
      rw [lower, List.flatMap_cons, List.map_cons]
      rcases lowerChar_cases char with equal | ⟨⟨lowered, member, beyond⟩, folded⟩
      · rw [equal, List.singleton_append]
        cases name with
        | nil => simp
        | cons first name =>
            rw [List.cons.injEq, List.cons.injEq]
            exact and_congr_right fun _ =>
              ih fun char among => ascii char (List.mem_cons_of_mem _ among)
      · constructor
        · rintro rfl
          have small := ascii lowered (List.mem_append_left _ member)
          omega
        · rintro rfl
          have small := ascii _ List.mem_cons_self
          omega

end Finality.Text
