import Mathlib.Data.List.DropRight
import Finality.Text.Class

/-!
# Blanks and digits of a text

What `Text.trim` leaves of a text does not depend on dropped characters around it
(`Text.trim_between`), and every text is what is left of it between such characters
(`Text.exists_trim`). A run of a class is found in front of what does not go on with it
(`Text.takeWhile_run`, `Text.dropWhile_run`). No decimal digit is blank, and neither digits nor
blanks are letters with another case.
-/

namespace Finality.Text

/-! ## Dropping characters at the ends -/

section

variable {drops : Char → Bool} {text before after : List Char}

/-- A text is what is left of it between characters that are dropped. -/
theorem exists_trim (drops : Char → Bool) (text : List Char) :
    ∃ before after, text = before ++ trim drops text ++ after ∧
      (∀ char ∈ before, drops char = true) ∧ ∀ char ∈ after, drops char = true := by
  refine ⟨text.takeWhile drops, (text.dropWhile drops).rtakeWhile drops, ?_, ?_, ?_⟩
  · have ends : trim drops text ++ (text.dropWhile drops).rtakeWhile drops =
        text.dropWhile drops := List.rdropWhile_append_rtakeWhile
    rw [List.append_assoc, ends, List.takeWhile_append_dropWhile]
  · exact fun _ => List.mem_takeWhile_imp
  · exact fun _ => List.mem_rtakeWhile_imp

theorem trim_between (isBefore : ∀ char ∈ before, drops char = true)
    (isAfter : ∀ char ∈ after, drops char = true) :
    trim drops (before ++ text ++ after) = trim drops text := by
  rw [trim, List.append_assoc, List.dropWhile_append_of_pos isBefore, List.dropWhile_append]
  split
  · next dropped =>
    -- Nothing of the text is left, so nothing after it is.
    rw [trim, List.isEmpty_iff.1 dropped, List.dropWhile_eq_nil_iff.2 isAfter]
  · rw [trim, List.reverse_append, List.dropWhile_append_of_pos]
    exact fun char member => isAfter char (List.mem_reverse.1 member)

theorem trim_eq_self (starts : ∀ nonempty : text ≠ [], drops (text.head nonempty) = false)
    (ends : ∀ nonempty : text ≠ [], drops (text.getLast nonempty) = false) :
    trim drops text = text := by
  have first : text.dropWhile drops = text := by
    rw [List.dropWhile_eq_self_iff]
    intro inBounds
    have nonempty := List.length_pos_iff.1 inBounds
    rw [List.getElem_zero, starts nonempty]
    exact Bool.false_ne_true
  have last : text.rdropWhile drops = text := by
    rw [List.rdropWhile_eq_self_iff]
    intro nonempty
    rw [ends nonempty]
    exact Bool.false_ne_true
  rw [trim, first]
  exact last

theorem trim_eq_self_of_none (none : ∀ char ∈ text, drops char = false) :
    trim drops text = text :=
  trim_eq_self (fun nonempty => none _ (List.head_mem nonempty))
    fun nonempty => none _ (List.getLast_mem nonempty)

end

/-! ## Runs of a class -/

section

variable {passes : Char → Bool} {run after : List Char}

theorem takeWhile_run (isRun : ∀ char ∈ run, passes char = true)
    (stops : ∀ char ∈ after.head?, passes char = false) :
    (run ++ after).takeWhile passes = run := by
  rw [List.takeWhile_append_of_pos isRun]
  cases after with
  | nil => exact List.append_nil run
  | cons char rest =>
      rw [List.takeWhile_cons_of_neg (Bool.eq_false_iff.1 (stops char rfl)), List.append_nil]

theorem dropWhile_run (isRun : ∀ char ∈ run, passes char = true)
    (stops : ∀ char ∈ after.head?, passes char = false) :
    (run ++ after).dropWhile passes = after := by
  rw [List.dropWhile_append_of_pos isRun]
  cases after with
  | nil => rfl
  | cons char rest => exact List.dropWhile_cons_of_neg (Bool.eq_false_iff.1 (stops char rfl))

end

/-! ## Classes of characters -/

theorem toNat_ofNat_of_isValidChar {code : Nat} (isValid : code.isValidChar) :
    (Char.ofNat code).toNat = code := by
  rw [Char.ofNat, dif_pos isValid]
  rfl

section

variable {char : Char} {value : Nat}

theorem exists_zero_of_digitValue? (digit : digitValue? char = some value) :
    value ≤ 9 ∧ ∃ first ∈ zeroDigits, char.toNat = first + value := by
  rcases Option.map_eq_some_iff.1 digit with ⟨first, found, rfl⟩
  have within := List.find?_some found
  rw [Bool.and_eq_true, decide_eq_true_iff, decide_eq_true_iff] at within
  refine ⟨?_, first, List.mem_of_find?_eq_some found, ?_⟩ <;> omega

theorem digits_not_blank :
    ∀ first ∈ zeroDigits, ∀ value ≤ 9, inRanges blankRanges (first + value) = false := by
  decide +kernel

theorem isBlank_of_digitValue? (digit : digitValue? char = some value) :
    isBlank char = false := by
  rcases exists_zero_of_digitValue? digit with ⟨small, first, member, equal⟩
  rw [isBlank, equal]
  exact digits_not_blank first member value small

theorem toLower_of_not_upper (other : char.toNat < 65 ∨ 90 < char.toNat) :
    char.toLower = char := by
  refine dif_neg ?_
  rintro ⟨least, greatest⟩
  have least : 65 ≤ char.toNat := least
  have greatest : char.toNat ≤ 90 := greatest
  omega

theorem blanks_not_upper : ∀ range ∈ blankRanges, range.2 < 65 ∨ 90 < range.1 := by
  decide

theorem toLower_of_isBlank (blank : isBlank char = true) : char.toLower = char := by
  rcases List.any_eq_true.1 blank with ⟨range, member, within⟩
  rw [Bool.and_eq_true, decide_eq_true_iff, decide_eq_true_iff] at within
  have apart := blanks_not_upper range member
  exact toLower_of_not_upper (by omega)

theorem digits_not_upper : ∀ first ∈ zeroDigits, first + 9 < 65 ∨ 90 < first := by
  decide

theorem toLower_of_digitValue? (digit : digitValue? char = some value) :
    char.toLower = char := by
  rcases exists_zero_of_digitValue? digit with ⟨small, first, member, equal⟩
  have apart := digits_not_upper first member
  exact toLower_of_not_upper (by omega)

end

end Finality.Text
