import Finality.Number.Integer
import Finality.Proofs.Text.Class

/-!
# Integer literals of digits alone

A decimal literal without sign, blanks and underscores is read exactly if it has at most 4300
digits (`Integer.read_digits`), whatever scripts its digits are of. So a number that is written in
decimal is read back (`Integer.read_toString`).
-/

namespace Finality

/-- Whether a text consists of decimal digits of any script, and of one at least. -/
def Text.IsNumeral (text : List Char) : Prop :=
  text ≠ [] ∧ ∀ char ∈ text, (Text.digitValue? char).isSome = true

/-- The number that decimal digits of any script write. -/
def Text.numeralValue (text : List Char) : Nat :=
  Text.decimalValue (text.filterMap Text.digitValue?)

namespace Integer

/-- The ASCII digit with a value. -/
def asciiDigit (value : Nat) : Char := Char.ofNat (48 + value)

section

variable {value : Nat}

theorem toNat_asciiDigit (small : value ≤ 9) : (asciiDigit value).toNat = 48 + value := by
  exact Text.toNat_ofNat_of_isValidChar (Or.inl (by omega))

theorem plainChar_of_digitValue? {char : Char} (digit : Text.digitValue? char = some value) :
    plainChar char = asciiDigit value := by
  rcases Text.exists_zero_of_digitValue? digit with ⟨small, first, member, equal⟩
  rw [plainChar]
  split
  · next ascii =>
    -- The only ASCII digits are those of the first run.
    have only : ∀ first ∈ Text.zeroDigits, first < 128 → first = 48 := by decide
    rw [only first member (by omega)] at equal
    apply Char.ext
    apply UInt32.toNat_inj.1
    exact equal.trans (toNat_asciiDigit small).symm
  · rw [if_neg (Bool.eq_false_iff.1 (Text.isBlank_of_digitValue? digit)), digit]
    rfl

theorem digitBelow?_asciiDigit (small : value ≤ 9) :
    digitBelow? 10 (asciiDigit value) = some value := by
  rw [digitBelow?, toNat_asciiDigit small]
  have digit : 48 ≤ 48 + value ∧ 48 + value ≤ 57 := by omega
  have below : 48 + value - 48 < 10 := by omega
  simp only [if_pos digit, if_pos below]
  exact congrArg some (Nat.add_sub_cancel_left 48 value)

theorem isAsciiBlank_asciiDigit (small : value ≤ 9) :
    Text.isAsciiBlank (asciiDigit value) = false := by
  have number := toNat_asciiDigit small
  rw [Text.isAsciiBlank, number]
  have other : asciiDigit value ≠ ' ' := by
    intro equal
    rw [equal] at number
    have code : (32 : Nat) = 48 + value := number
    omega
  have above : ¬48 + value ≤ 13 := by omega
  simp [other, above]

end

variable {values : List Nat}

/-- Digits alone are a literal without underscores. -/
theorem digits?_asciiDigits (nonempty : values ≠ []) (small : ∀ value ∈ values, value ≤ 9) :
    digits? 10 (values.map asciiDigit) = some values := by
  induction values with
  | nil => exact absurd rfl nonempty
  | cons value rest ih =>
      rcases List.forall_mem_cons.1 small with ⟨first, others⟩
      cases rest with
      | nil => simp [digits?, digitBelow?_asciiDigit first]
      | cons next rest =>
          have next_ne : asciiDigit next ≠ '_' := by
            intro equal
            have number := toNat_asciiDigit (others next List.mem_cons_self)
            rw [equal] at number
            have code : (95 : Nat) = 48 + next := number
            have small := others next List.mem_cons_self
            omega
          have tail := ih (List.cons_ne_nil next rest) others
          rw [List.map_cons] at tail
          rw [List.map_cons, List.map_cons, digits?, digitBelow?_asciiDigit first, tail]
          · intro equal
            cases equal
          · intro after equal
            exact next_ne (List.cons.inj equal).1

theorem valueIn_asciiDigits (nonempty : values ≠ []) (small : ∀ value ∈ values, value ≤ 9) :
    valueIn 10 (values.map asciiDigit) =
      if maxDigits < values.length then .error (.tooLong values.length)
      else .ok (Text.decimalValue values) := by
  have run : (values.map asciiDigit).takeWhile
      (fun char => char = '_' || (digitBelow? 10 char).isSome) = values.map asciiDigit := by
    rw [List.takeWhile_eq_self_iff]
    intro char member
    rcases List.mem_map.1 member with ⟨value, among, rfl⟩
    rw [digitBelow?_asciiDigit (small value among)]
    exact Bool.or_true _
  simp only [valueIn]
  rw [run, digits?_asciiDigits nonempty small]
  simp only [true_and, lt_irrefl, if_false]
  rfl

/-- Digits do not start with another character. -/
theorem asciiDigits_ne_cons {mark : Char} {rest : List Char}
    (small : ∀ value ∈ values, value ≤ 9) (other : mark.toNat < 48) :
    values.map asciiDigit ≠ mark :: rest := by
  intro equal
  have member : mark ∈ values.map asciiDigit := equal ▸ List.mem_cons_self
  rcases List.mem_map.1 member with ⟨value, among, rfl⟩
  rw [toNat_asciiDigit (small value among)] at other
  omega

/-! ## Digits of any script -/

section

variable {text : List Char}

theorem map_plainChar (digits : ∀ char ∈ text, (Text.digitValue? char).isSome = true) :
    text.map plainChar = (text.filterMap Text.digitValue?).map asciiDigit := by
  induction text with
  | nil => rfl
  | cons char rest ih =>
      rcases List.forall_mem_cons.1 digits with ⟨first, others⟩
      rcases Option.isSome_iff_exists.1 first with ⟨value, digit⟩
      rw [List.map_cons, List.filterMap_cons_some digit, List.map_cons, ih others,
        plainChar_of_digitValue? digit]

theorem length_filterMap_digitValue?
    (digits : ∀ char ∈ text, (Text.digitValue? char).isSome = true) :
    (text.filterMap Text.digitValue?).length = text.length := by
  have equal := congrArg List.length (map_plainChar digits)
  rw [List.length_map, List.length_map] at equal
  exact equal.symm

theorem le_nine_of_mem_digits (text : List Char) :
    ∀ value ∈ text.filterMap Text.digitValue?, value ≤ 9 := by
  intro value member
  rcases List.mem_filterMap.1 member with ⟨char, -, digit⟩
  exact (Text.exists_zero_of_digitValue? digit).1

end

theorem unsigned_decimal (text : List Char) : unsigned .decimal text = valueIn 10 text :=
  rfl

/-- A text of digits alone is read exactly, unless they are too many. -/
theorem read_digits {text : List Char} (numeral : Text.IsNumeral text) :
    read .decimal text =
      if maxDigits < text.length then .error (.tooLong text.length)
      else .ok (Text.numeralValue text) := by
  have plain : text.map plainChar = (text.filterMap Text.digitValue?).map asciiDigit :=
    map_plainChar numeral.2
  have length := length_filterMap_digitValue? numeral.2
  have small := le_nine_of_mem_digits text
  have nonempty : text.filterMap Text.digitValue? ≠ [] := by
    rw [← List.length_pos_iff, length]
    exact List.length_pos_iff.2 numeral.1
  have unblanked : Text.trim Text.isAsciiBlank (text.map plainChar) =
      (text.filterMap Text.digitValue?).map asciiDigit := by
    rw [plain]
    refine Text.trim_eq_self_of_none fun char member => ?_
    rcases List.mem_map.1 member with ⟨value, among, rfl⟩
    exact isAsciiBlank_asciiDigit (small value among)
  have unmarked := valueIn_asciiDigits nonempty small
  rw [length] at unmarked
  rw [read, unblanked]
  split
  · next rest equal =>
    exact absurd equal (asciiDigits_ne_cons small (by decide))
  · next rest equal =>
    exact absurd equal (asciiDigits_ne_cons small (by decide))
  · next rest _ _ =>
    rw [unsigned_decimal, unmarked]
    split <;> rfl

/-! ## Numbers written in decimal -/

section

variable {number digit : Nat}

theorem digitValue?_digitChar (small : digit < 10) :
    Text.digitValue? (Nat.digitChar digit) = some digit := by
  revert digit
  decide

theorem decimalValue_concat (values : List Nat) (value : Nat) :
    Text.decimalValue (values ++ [value]) = 10 * Text.decimalValue values + value := by
  rw [Text.decimalValue, List.foldl_append]
  rfl

/-- The digits of a number are those of its tenth and the last one. -/
theorem filterMap_toDigits (number : Nat) :
    Text.decimalValue ((Nat.toDigits 10 number).filterMap Text.digitValue?) = number ∧
      ∀ char ∈ Nat.toDigits 10 number, (Text.digitValue? char).isSome = true := by
  induction number using Nat.strongRecOn with
  | ind number ih =>
      rw [Nat.toDigits_eq_if (by decide)]
      split
      · next small =>
        rw [List.filterMap_cons_some (digitValue?_digitChar small), List.forall_mem_singleton,
          digitValue?_digitChar small]
        exact ⟨Nat.zero_add number, rfl⟩
      · next large =>
        have last := digitValue?_digitChar (Nat.mod_lt number (by decide : 0 < 10))
        rcases ih (number / 10) (by omega) with ⟨value, digits⟩
        rw [List.filterMap_append, List.filterMap_cons_some last, List.filterMap_nil,
          decimalValue_concat, value, List.forall_mem_append, List.forall_mem_singleton, last]
        exact ⟨Nat.div_add_mod number 10, digits, rfl⟩

theorem isNumeral_toString : Text.IsNumeral (toString number).toList := by
  rw [Nat.toString_eq_repr, Nat.toList_repr]
  exact ⟨Nat.toDigits_ne_nil, (filterMap_toDigits number).2⟩

theorem numeralValue_toString : Text.numeralValue (toString number).toList = number := by
  rw [Nat.toString_eq_repr, Nat.toList_repr]
  exact (filterMap_toDigits number).1

theorem toString_injective : Function.Injective (toString : Nat → String) := by
  intro left right equal
  rw [← @numeralValue_toString left, equal, numeralValue_toString]

theorem length_toString_le {digits : Nat} (positive : 0 < digits)
    (short : number < Nat.pow 10 digits) : (toString number).toList.length ≤ digits := by
  rw [Nat.toString_eq_repr, Nat.toList_repr]
  exact (Nat.length_toDigits_le_iff (by decide) positive).2 short

/-- A number with at most 4300 digits is read back from its decimal text. -/
theorem read_toString (short : number < Nat.pow 10 maxDigits) :
    read .decimal (toString number).toList = .ok (number : Int) := by
  have length := length_toString_le (by decide : 0 < maxDigits) short
  rw [read_digits isNumeral_toString, if_neg (Nat.not_lt.2 length), numeralValue_toString]

end

end Integer

end Finality
