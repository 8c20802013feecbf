import Finality.Config.Duration
import Finality.Proofs.Number.Integer
import Finality.Proofs.Outcome

/-!
# What a duration means

A text stands for a duration exactly if it is decimal digits, at most 4300 of them, and a
unit in any letter case or no unit, with blanks around both; it then stands for the number of
the digits times the unit (`Duration.read_eq_ok_iff`). Every other text ends in a fault with
a text of its own, apart from those that write their unit with the long s
(`Duration.read_failsUnless`).
-/

namespace Finality

/-! ## Units -/

namespace TimeUnit

/-- Characters write a unit: they are its symbol in any letter case, or there are none for
seconds. -/
def IsWritten (unit : TimeUnit) (chars : List Char) : Prop :=
  (chars = [] ∧ unit = second) ∨ chars.map Char.toLower = unit.symbol.toList

/-- Characters write a unit with the long s in the place of an s. -/
def IsWrittenLong (unit : TimeUnit) (chars : List Char) : Prop :=
  Duration.longS ∈ chars ∧ chars.map Duration.unitChar = unit.symbol.toList

/-- A character is no blank and no digit. -/
def IsLetter (char : Char) : Prop := Text.isBlank char = false ∧ Duration.isDigit char = false

theorem ofSymbol?_eq_some_iff {symbol : String} {unit : TimeUnit} :
    ofSymbol? symbol = some unit ↔ unit.symbol = symbol := by
  constructor
  · intro found
    exact of_decide_eq_true (List.find?_some found :)
  · rintro rfl
    cases unit <;> rfl

theorem isLetter_of_mem_symbol {unit : TimeUnit} {char : Char}
    (member : char ∈ unit.symbol.toList) : IsLetter char := by
  have letters : unit.symbol.toList.all
      (fun char => !Text.isBlank char && !Duration.isDigit char) = true := by
    cases unit <;> decide +kernel
  have letter := List.all_eq_true.1 letters char member
  rwa [Bool.and_eq_true, Bool.not_eq_true', Bool.not_eq_true'] at letter

theorem longS_isLetter : IsLetter Duration.longS := by
  constructor <;> decide +kernel

theorem longS_not_mem_symbol {unit : TimeUnit} : Duration.longS ∉ unit.symbol.toList := by
  cases unit <;> decide

/-- A character that becomes a letter in lower case is one. -/
theorem isLetter_of_toLower {char : Char} (lower : IsLetter char.toLower) : IsLetter char := by
  constructor
  · by_contra blank
    have blank := Bool.of_not_eq_false blank
    rw [Text.toLower_of_isBlank blank] at lower
    exact Bool.false_ne_true (lower.1.symm.trans blank)
  · by_contra digit
    have digit := Bool.of_not_eq_false digit
    rcases Option.isSome_iff_exists.1 digit with ⟨value, equal⟩
    rw [Text.toLower_of_digitValue? equal] at lower
    exact Bool.false_ne_true (lower.2.symm.trans digit)

section

variable {unit : TimeUnit} {chars : List Char}

theorem isLetter_of_unitChars (written : chars.map Duration.unitChar = unit.symbol.toList) :
    ∀ char ∈ chars, IsLetter char := by
  intro char member
  have symbol : Duration.unitChar char ∈ unit.symbol.toList :=
    written ▸ List.mem_map_of_mem member
  rw [Duration.unitChar] at symbol
  split at symbol
  · next long => exact long ▸ longS_isLetter
  · exact isLetter_of_toLower (isLetter_of_mem_symbol symbol)

/-- Without the long s, the letters of a unit are those of any letter case. -/
theorem map_unitChar (short : Duration.longS ∉ chars) :
    chars.map Duration.unitChar = chars.map Char.toLower := by
  refine List.map_congr_left fun char member => ?_
  refine if_neg ?_
  rintro rfl
  exact short member

theorem IsWritten.short (written : unit.IsWritten chars) : Duration.longS ∉ chars := by
  intro member
  rcases written with ⟨rfl, -⟩ | lower
  · exact List.not_mem_nil member
  · have unchanged : Duration.longS.toLower = Duration.longS := by decide
    have symbol : Duration.longS ∈ unit.symbol.toList :=
      lower ▸ unchanged ▸ List.mem_map_of_mem member
    exact longS_not_mem_symbol symbol

theorem IsWritten.isLetter (written : unit.IsWritten chars) : ∀ char ∈ chars, IsLetter char := by
  have short := written.short
  rcases written with ⟨rfl, -⟩ | lower
  · exact fun _ member => absurd member List.not_mem_nil
  · exact isLetter_of_unitChars ((map_unitChar short).trans lower)

end

end TimeUnit

namespace Duration

section

variable {text : String} {chars : List Char} {unit : TimeUnit}

theorem unitOf_of_ne_nil (nonempty : chars ≠ []) :
    unitOf text chars =
      match TimeUnit.ofSymbol? (String.ofList (chars.map unitChar)) with
      | none => .error (.malformed text)
      | some unit => if chars.contains longS then .error .longS else .ok unit := by
  cases chars with
  | nil => exact absurd rfl nonempty
  | cons char rest => rfl

theorem ofSymbol?_eq_some_iff_unitChars :
    TimeUnit.ofSymbol? (String.ofList (chars.map unitChar)) = some unit ↔
      chars.map unitChar = unit.symbol.toList := by
  rw [TimeUnit.ofSymbol?_eq_some_iff]
  constructor
  · intro equal
    rw [equal, String.toList_ofList]
  · intro equal
    rw [equal, String.ofList_toList]

theorem ne_nil_of_unitChars (written : chars.map unitChar = unit.symbol.toList) :
    chars ≠ [] := by
  rintro rfl
  cases unit <;> cases written

theorem unitOf_eq_ok_iff : unitOf text chars = .ok unit ↔ unit.IsWritten chars := by
  constructor
  · intro found
    by_cases empty : chars = []
    · subst empty
      cases found
      exact Or.inl ⟨rfl, rfl⟩
    · rw [unitOf_of_ne_nil empty] at found
      split at found
      · cases found
      · next unit symbol =>
        split at found
        · cases found
        · next short =>
          cases found
          refine Or.inr ?_
          rw [← TimeUnit.map_unitChar fun member => short (List.contains_iff_mem.2 member)]
          exact ofSymbol?_eq_some_iff_unitChars.1 symbol
  · intro written
    have short := written.short
    rcases written with ⟨rfl, rfl⟩ | lower
    · rfl
    · have symbol := (TimeUnit.map_unitChar short).trans lower
      rw [unitOf_of_ne_nil (ne_nil_of_unitChars symbol),
        ofSymbol?_eq_some_iff_unitChars.2 symbol]
      exact if_neg fun member => short (List.contains_iff_mem.1 member)

theorem unitOf_eq_longS_iff :
    unitOf text chars = .error .longS ↔ ∃ unit : TimeUnit, unit.IsWrittenLong chars := by
  constructor
  · intro failed
    by_cases empty : chars = []
    · subst empty
      cases failed
    · rw [unitOf_of_ne_nil empty] at failed
      split at failed
      · cases failed
      · next unit symbol =>
        split at failed
        · next long =>
          exact ⟨unit, List.contains_iff_mem.1 long, ofSymbol?_eq_some_iff_unitChars.1 symbol⟩
        · cases failed
  · rintro ⟨unit, long, symbol⟩
    rw [unitOf_of_ne_nil (ne_nil_of_unitChars symbol),
      ofSymbol?_eq_some_iff_unitChars.2 symbol]
    exact if_pos (List.contains_iff_mem.2 long)

end

/-! ## The parts of a text -/

/-- A text consists of decimal digits and what stands for a unit, with blanks around both. -/
def Writes (text : String) (digits unit : List Char) : Prop :=
  Text.IsNumeral digits ∧ ∃ before between after,
    text.toList = before ++ digits ++ between ++ unit ++ after ∧
      ∀ char ∈ before ++ between ++ after, Text.isBlank char = true

/-- The digits that a text starts with after blanks. -/
def digitsOf (text : String) : List Char :=
  (Text.trim Text.isBlank text.toList).takeWhile isDigit

/-- What follows the digits of a text, without blanks around it. -/
def unitCharsOf (text : String) : List Char :=
  ((Text.trim Text.isBlank text.toList).dropWhile isDigit).dropWhile Text.isBlank

section

variable {text : String} {digits chars : List Char}

theorem writes_parts (found : digitsOf text ≠ []) :
    Writes text (digitsOf text) (unitCharsOf text) := by
  rcases Text.exists_trim Text.isBlank text.toList with ⟨before, after, split, isBefore, isAfter⟩
  let rest := (Text.trim Text.isBlank text.toList).dropWhile isDigit
  have parts : digitsOf text ++ (rest.takeWhile Text.isBlank ++ unitCharsOf text) =
      Text.trim Text.isBlank text.toList := by
    rw [unitCharsOf, List.takeWhile_append_dropWhile, digitsOf, List.takeWhile_append_dropWhile]
  refine ⟨⟨found, fun char => List.mem_takeWhile_imp⟩, before, rest.takeWhile Text.isBlank, after,
    ?_, ?_⟩
  · calc
      text.toList = before ++ (digitsOf text ++ (rest.takeWhile Text.isBlank
          ++ unitCharsOf text)) ++ after := by rw [parts, ← split]
      _ = before ++ digitsOf text ++ rest.takeWhile Text.isBlank ++ unitCharsOf text ++ after := by
        simp only [List.append_assoc]
  · intro char member
    rcases List.mem_append.1 member with member | last
    · rcases List.mem_append.1 member with first | middle
      · exact isBefore char first
      · exact List.mem_takeWhile_imp middle
    · exact isAfter char last

theorem isBlank_of_isDigit {char : Char} (digit : isDigit char = true) :
    Text.isBlank char = false := by
  rcases Option.isSome_iff_exists.1 digit with ⟨value, equal⟩
  exact Text.isBlank_of_digitValue? equal

theorem isDigit_of_isBlank {char : Char} (blank : Text.isBlank char = true) :
    isDigit char = false := by
  by_contra digit
  have other := isBlank_of_isDigit (Bool.of_not_eq_false digit)
  exact Bool.false_ne_true (other.symm.trans blank)

/-- What is left of a text without blanks around it are its digits, its unit and the blanks between
them; these are no part of it if there is no unit. -/
theorem trim_of_writes (writes : Writes text digits chars)
    (letters : ∀ char ∈ chars, TimeUnit.IsLetter char) :
    ∃ between, Text.trim Text.isBlank text.toList = digits ++ (between ++ chars) ∧
      ∀ char ∈ between, Text.isBlank char = true := by
  rcases writes with ⟨⟨nonempty, isDigits⟩, before, between, after, split, blanks⟩
  rcases List.forall_mem_append.1 blanks with ⟨blanks, isAfter⟩
  rcases List.forall_mem_append.1 blanks with ⟨isBefore, isBetween⟩
  by_cases empty : chars = []
  · subst empty
    have tail : ∀ char ∈ between ++ after, Text.isBlank char = true :=
      List.forall_mem_append.2 ⟨isBetween, isAfter⟩
    refine ⟨[], ?_, fun _ member => absurd member List.not_mem_nil⟩
    rw [split, List.append_nil, List.append_assoc, Text.trim_between isBefore tail]
    rw [List.append_nil, List.append_nil]
    exact Text.trim_eq_self_of_none fun char member => isBlank_of_isDigit (isDigits char member)
  · refine ⟨between, ?_, isBetween⟩
    rw [split, List.append_assoc before, List.append_assoc before,
      Text.trim_between isBefore isAfter, List.append_assoc]
    refine Text.trim_eq_self (fun _ => ?_) fun _ => ?_
    · rw [List.head_append_of_ne_nil nonempty]
      exact isBlank_of_isDigit (isDigits _ (List.head_mem nonempty))
    · rw [List.getLast_append_of_ne_nil _ (List.append_ne_nil_of_right_ne_nil between empty),
        List.getLast_append_of_ne_nil _ empty]
      exact (letters _ (List.getLast_mem empty)).1

theorem parts_of_writes (writes : Writes text digits chars)
    (letters : ∀ char ∈ chars, TimeUnit.IsLetter char) :
    digitsOf text = digits ∧ unitCharsOf text = chars := by
  rcases trim_of_writes writes letters with ⟨between, whole, isBetween⟩
  have isDigits : ∀ char ∈ digits, isDigit char = true := writes.1.2
  have stops : ∀ char ∈ (between ++ chars).head?, isDigit char = false := by
    intro char first
    rcases List.mem_append.1 (List.mem_of_mem_head? first) with blank | letter
    · exact isDigit_of_isBlank (isBetween char blank)
    · exact (letters char letter).2
  have rest : (Text.trim Text.isBlank text.toList).dropWhile isDigit = between ++ chars := by
    rw [whole, Text.dropWhile_run isDigits stops]
  constructor
  · rw [digitsOf, whole, Text.takeWhile_run isDigits stops]
  · rw [unitCharsOf, rest, Text.dropWhile_run isBetween]
    exact fun char first => (letters char (List.mem_of_mem_head? first)).1

end

/-! ## Outcomes -/

section

variable {text : String} {digits chars : List Char}

theorem read_eq_parts :
    read text =
      if (digitsOf text).isEmpty then .error (.malformed text)
      else
        match unitOf text (unitCharsOf text), Integer.read .decimal (digitsOf text) with
        | .error (.malformed text), _ => .error (.malformed text)
        | _, .error fault => .error (.number fault (String.ofList (digitsOf text)))
        | .error fault, _ => .error fault
        | .ok unit, .ok value => .ok (value.toNat * unit.nanoseconds) :=
  rfl

/-- Digits are found at the front of a text, and what follows them is no unknown unit. -/
def IsRecognised (text : String) : Prop :=
  digitsOf text ≠ [] ∧ ∀ other, unitOf text (unitCharsOf text) ≠ .error (.malformed other)

theorem read_of_not_isRecognised (unknown : ¬IsRecognised text) :
    ∃ other, read text = .error (.malformed other) := by
  rw [read_eq_parts]
  by_cases empty : digitsOf text = []
  · exact ⟨text, if_pos (List.isEmpty_iff.2 empty)⟩
  · rw [if_neg fun isEmpty => empty (List.isEmpty_iff.1 isEmpty)]
    have malformed : ∃ other, unitOf text (unitCharsOf text) = .error (.malformed other) := by
      by_contra none
      exact unknown ⟨empty, fun other equal => none ⟨other, equal⟩⟩
    rcases malformed with ⟨other, equal⟩
    rw [equal]
    exact ⟨other, rfl⟩

theorem read_of_isRecognised (known : IsRecognised text) :
    read text =
      if Integer.maxDigits < (digitsOf text).length then
        .error (.number (.tooLong (digitsOf text).length) (String.ofList (digitsOf text)))
      else (unitOf text (unitCharsOf text)).map
        fun unit => Text.numeralValue (digitsOf text) * unit.nanoseconds := by
  rcases known with ⟨found, recognised⟩
  rw [read_eq_parts, if_neg fun isEmpty => found (List.isEmpty_iff.1 isEmpty),
    Integer.read_digits (writes_parts found).1]
  cases outcome : unitOf text (unitCharsOf text) with
  | ok unit => split_ifs <;> rfl
  | error fault =>
      cases fault with
      | malformed other => exact absurd outcome (recognised other)
      | number fault literal => split_ifs <;> rfl
      | longS => split_ifs <;> rfl

theorem isRecognised_of_writes (writes : Writes text digits chars)
    (letters : ∀ char ∈ chars, TimeUnit.IsLetter char)
    (known : ∀ other, unitOf text chars ≠ .error (.malformed other)) : IsRecognised text := by
  rcases parts_of_writes writes letters with ⟨isDigits, isUnit⟩
  constructor
  · rw [isDigits]
    exact writes.1.1
  · rw [isUnit]
    exact known

/-- A text stands for a number of nanoseconds. -/
def Means (text : String) (nanoseconds : Nat) : Prop :=
  ∃ digits chars, ∃ unit : TimeUnit, Writes text digits chars ∧ unit.IsWritten chars ∧
    digits.length ≤ Integer.maxDigits ∧
      nanoseconds = Text.numeralValue digits * unit.nanoseconds

/-- A text would stand for a duration if the long s were an s. -/
def MeansLong (text : String) : Prop :=
  ∃ digits chars, ∃ unit : TimeUnit, Writes text digits chars ∧ unit.IsWrittenLong chars ∧
    digits.length ≤ Integer.maxDigits

theorem read_eq_ok_iff {nanoseconds : Nat} :
    read text = .ok nanoseconds ↔ Means text nanoseconds := by
  constructor
  · intro ran
    have known : IsRecognised text := by
      by_contra unknown
      rcases read_of_not_isRecognised unknown with ⟨other, failed⟩
      cases ran.symm.trans failed
    rw [read_of_isRecognised known] at ran
    split at ran
    · cases ran
    · next short =>
      rcases Outcome.map_eq_ok_iff.1 ran with ⟨unit, written, rfl⟩
      exact ⟨_, _, unit, writes_parts known.1, unitOf_eq_ok_iff.1 written,
        Nat.le_of_not_lt short, rfl⟩
  · rintro ⟨digits, chars, unit, writes, written, short, rfl⟩
    have recognised := (@unitOf_eq_ok_iff text chars unit).2 written
    have known : IsRecognised text := by
      refine isRecognised_of_writes writes written.isLetter fun other failed => ?_
      cases recognised.symm.trans failed
    rcases parts_of_writes writes written.isLetter with ⟨isDigits, isUnit⟩
    rw [read_of_isRecognised known, isDigits, isUnit, if_neg (Nat.not_lt.2 short), recognised]
    rfl

example : Means " 250 mS" 250000000 := read_eq_ok_iff.1 rfl

theorem read_eq_longS_iff : read text = .error .longS ↔ MeansLong text := by
  constructor
  · intro failed
    have known : IsRecognised text := by
      by_contra unknown
      rcases read_of_not_isRecognised unknown with ⟨other, malformed⟩
      cases failed.symm.trans malformed
    rw [read_of_isRecognised known] at failed
    split at failed
    · cases failed
    · next short =>
      rcases unitOf_eq_longS_iff.1 (Outcome.map_eq_error_iff.1 failed) with ⟨unit, written⟩
      exact ⟨_, _, unit, writes_parts known.1, written, Nat.le_of_not_lt short⟩
  · rintro ⟨digits, chars, unit, writes, written, short⟩
    have letters := TimeUnit.isLetter_of_unitChars written.2
    have long := (@unitOf_eq_longS_iff text chars).2 ⟨unit, written⟩
    have known : IsRecognised text := by
      refine isRecognised_of_writes writes letters fun other failed => ?_
      cases long.symm.trans failed
    rcases parts_of_writes writes letters with ⟨isDigits, isUnit⟩
    rw [read_of_isRecognised known, isDigits, isUnit, if_neg (Nat.not_lt.2 short), long]
    rfl

/-- A text that means a duration is not blank. -/
theorem Means.not_blank {text : String} {nanoseconds : Nat}
    (means : Means text nanoseconds) : ¬text.toList.all Text.isBlank := by
  rcases means with
    ⟨digits, chars, unit, ⟨⟨nonempty, isDigits⟩, before, between, after, split, -⟩, -⟩
  rcases List.exists_mem_of_ne_nil digits nonempty with ⟨digit, member⟩
  have inside : digit ∈ text.toList := by
    rw [split]
    simp [member]
  intro blank
  have isBlank := List.all_eq_true.1 blank digit inside
  rw [isBlank_of_isDigit (isDigits digit member)] at isBlank
  cases isBlank

/-- Every text ends in a number of nanoseconds or in a fault that tells what is wrong with it,
unless its unit is written with the long s. -/
theorem read_failsUnless (text : String) :
    Outcome.FailsUnless (fun fault => ∃ message, fault.message? = some message) .longS
      (MeansLong text) (read text) where
  others := by
    intro fault _
    cases fault with
    | malformed other => exact Or.inl ⟨_, rfl⟩
    | number fault digits => exact Or.inl ⟨_, rfl⟩
    | longS => exact Or.inr rfl
  escapes_iff := read_eq_longS_iff

end

end Duration

end Finality
