import Finality.Json.Reader
import Finality.Json.Writer
import Finality.Proofs.Bytes.Hex
import Finality.Proofs.Text.Class

/-!
# Texts in JSON are read back

A text stands between quotes as a sequence of pieces: single characters, escapes with one
letter, and escapes with four hexadecimal digits, of which a character beyond 16 bits takes
two. The reader takes the pieces one by one (`Spells.read`), whichever of them a writer
chooses. What is written of a text is such a sequence (`spells_written`), and the text is put
together from it again (`textOfCodes_units`).
-/

namespace Finality.Json

/-! ## Pieces -/

/-- What one character or escape of a text stands for. -/
inductive Piece : List Char → Nat → Prop where
  | plain {char : Char} : 32 ≤ char.toNat → char ≠ '"' → char ≠ '\\' → Piece [char] char.toNat
  | letter {letter : Char} {code : Nat} :
      letterEscape? letter = some code → Piece ['\\', letter] code
  | unit {digits : List Char} {unit : Nat} : digits.length = 4 →
      (∀ digit ∈ digits, (hexValue? digit).isSome = true) →
        (∀ rest, readUnit? (digits ++ rest) = some (unit, rest)) →
          Piece ('\\' :: 'u' :: digits) unit

/-- The pieces of a text and what they stand for. -/
inductive Spells : List Char → List Nat → Prop where
  | nil : Spells [] []
  | cons {piece chars : List Char} {unit : Nat} {units : List Nat} :
      Piece piece unit → Spells chars units → Spells (piece ++ chars) (unit :: units)

section

variable {fuel unit : Nat} {units moreUnits : List Nat} {chars more rest : List Char}

theorem Piece.length_pos (piece : Piece chars unit) : 0 < chars.length := by
  cases piece <;> exact Nat.succ_pos _

theorem Piece.read (piece : Piece chars unit) :
    readCodes? (fuel + 1) (chars ++ rest) =
      (readCodes? fuel rest).map fun (codes, rest) => (unit :: codes, rest) := by
  cases piece with
  | @plain char printable unquoted unescaped =>
      have large : ¬char.toNat < 32 := Nat.not_lt.2 printable
      rw [List.singleton_append, readCodes?.eq_def]
      simp [unescaped, large]
  | @letter letter _ escape =>
      have other : letter ≠ 'u' := by
        rintro rfl
        cases escape
      rw [List.cons_append, List.singleton_append, readCodes?.eq_def]
      simp [escape]
  | @unit digits _ _ _ read =>
      rw [List.cons_append, List.cons_append, readCodes?.eq_def]
      simp [read]

theorem Spells.append (spells : Spells chars units) (others : Spells more moreUnits) :
    Spells (chars ++ more) (units ++ moreUnits) := by
  induction spells with
  | nil => exact others
  | cons piece _ ih =>
      rw [List.append_assoc]
      exact .cons piece ih

theorem Spells.length_le (spells : Spells chars units) : units.length ≤ chars.length := by
  induction spells with
  | nil => exact Nat.le_refl 0
  | cons piece _ ih =>
      have positive := piece.length_pos
      rw [List.length_append, List.length_cons]
      omega

/-- Pieces are read up to the closing quote. -/
theorem Spells.read (spells : Spells chars units) (enough : units.length < fuel) :
    readCodes? fuel (chars ++ '"' :: rest) = some (units, rest) := by
  induction spells generalizing fuel with
  | nil =>
      cases fuel with
      | zero => exact absurd enough (Nat.not_lt_zero _)
      | succ fuel => rfl
  | cons piece _ ih =>
      cases fuel with
      | zero => exact absurd enough (Nat.not_lt_zero _)
      | succ fuel =>
          rw [List.append_assoc, piece.read, ih (Nat.lt_of_succ_lt_succ enough)]
          rfl

/-- What is left of a text is fuel enough for it. -/
theorem Spells.read_length (spells : Spells chars units) :
    readCodes? ((chars ++ '"' :: rest).length + 1) (chars ++ '"' :: rest) =
      some (units, rest) := by
  have short := spells.length_le
  refine spells.read ?_
  rw [List.length_append]
  omega

end

/-! ## Written texts -/

/-- The 16-bit units of a code. -/
def unitsOf (code : Nat) : List Nat :=
  if code < 0x10000 then [code]
  else [0xd800 + (code - 0x10000) / 0x400, 0xdc00 + (code - 0x10000) % 0x400]

section

variable {code unit : Nat} {chars : List Char}

theorem Spells.single (piece : Piece chars unit) : Spells chars [unit] := by
  have alone := Spells.cons piece .nil
  rw [List.append_nil] at alone
  exact alone

theorem piece_unitEscape (small : unit < 0x10000) : Piece (unitEscape unit) unit := by
  have digit : ∀ number, number % 16 < 16 := fun number => Nat.mod_lt number (by decide)
  have digits : Text.hexDigits 4 unit =
      [hexDigit (unit / 4096 % 16), hexDigit (unit / 256 % 16), hexDigit (unit / 16 % 16),
        hexDigit (unit / 1 % 16)] := rfl
  refine .unit rfl ?_ fun rest => ?_
  · intro char member
    rcases List.mem_map.1 member with ⟨place, -, rfl⟩
    rw [hexValue?_hexDigit (digit _)]
    rfl
  · have whole : ((unit / 4096 % 16 * 16 + unit / 256 % 16) * 16 + unit / 16 % 16) * 16 +
        unit / 1 % 16 = unit := by omega
    rw [digits]
    simp only [List.cons_append, List.nil_append, readUnit?, hexValue?_hexDigit (digit _), whole]

theorem spells_codeText (isValid : code.isValidChar) : Spells (codeText code) (unitsOf code) := by
  have bound : code < 0x110000 := by
    rcases isValid with low | high <;> omega
  by_cases small : code < 0x10000
  · rw [unitsOf, if_pos small, codeText]
    split_ifs with quote backslash newline carriage tab feed backspace printable
    · exact quote ▸ .single (.letter rfl)
    · exact backslash ▸ .single (.letter rfl)
    · exact newline ▸ .single (.letter rfl)
    · exact carriage ▸ .single (.letter rfl)
    · exact tab ▸ .single (.letter rfl)
    · exact feed ▸ .single (.letter rfl)
    · exact backspace ▸ .single (.letter rfl)
    · have number := Text.toNat_ofNat_of_isValidChar isValid
      have plain : Piece [Char.ofNat code] (Char.ofNat code).toNat := by
        refine .plain (number.symm ▸ printable.1 : 32 ≤ (Char.ofNat code).toNat) ?_ ?_
        · intro equal
          exact quote (number ▸ congrArg Char.toNat equal)
        · intro equal
          exact backslash (number ▸ congrArg Char.toNat equal)
      rw [number] at plain
      exact .single plain
    · exact .single (piece_unitEscape small)
  · have other : ∀ small < 0x10000, code ≠ small := by omega
    have pair : codeText code =
        unitEscape (0xd800 + (code - 0x10000) / 0x400)
          ++ unitEscape (0xdc00 + (code - 0x10000) % 0x400) := by
      rw [codeText, if_neg (other 34 (by decide)), if_neg (other 92 (by decide)),
        if_neg (other 10 (by decide)), if_neg (other 13 (by decide)),
        if_neg (other 9 (by decide)), if_neg (other 12 (by decide)),
        if_neg (other 8 (by decide)), if_neg (by omega), if_neg small]
    rw [pair, unitsOf, if_neg small]
    exact .append (.single (piece_unitEscape (by omega)))
      (.single (piece_unitEscape (by omega)))

/-- What is written of a text between quotes. -/
def written (text : String) : List Char := text.toList.flatMap fun char => codeText char.toNat

/-- The 16-bit units of a text. -/
def units (text : String) : List Nat := text.toList.flatMap fun char => unitsOf char.toNat

theorem spells_written (text : String) : Spells (written text) (units text) := by
  rw [written, units]
  induction text.toList with
  | nil => exact .nil
  | cons char rest ih => exact (spells_codeText char.valid).append ih

/-! ## Texts put together -/

theorem not_surrogate_of_isValidChar (isValid : code.isValidChar) :
    isHighSurrogate code = false ∧ isLowSurrogate code = false := by
  rw [isHighSurrogate, isLowSurrogate, Bool.and_eq_false_iff, Bool.and_eq_false_iff,
    decide_eq_false_iff_not, decide_eq_false_iff_not, decide_eq_false_iff_not,
    decide_eq_false_iff_not]
  rcases isValid with low | high <;> omega

theorem joinPairs_unitsOf {rest : List Nat} (isValid : code.isValidChar) :
    joinPairs (unitsOf code ++ rest) = code :: joinPairs rest := by
  by_cases small : code < 0x10000
  · rw [unitsOf, if_pos small, List.singleton_append]
    cases rest with
    | nil => rfl
    | cons next rest =>
        rw [joinPairs, (not_surrogate_of_isValidChar isValid).1]
        rfl
  · have bound : code < 0x110000 := by
      rcases isValid with low | high <;> omega
    have high : isHighSurrogate (0xd800 + (code - 0x10000) / 0x400) = true := by
      rw [isHighSurrogate, Bool.and_eq_true, decide_eq_true_iff, decide_eq_true_iff]
      omega
    have low : isLowSurrogate (0xdc00 + (code - 0x10000) % 0x400) = true := by
      rw [isLowSurrogate, Bool.and_eq_true, decide_eq_true_iff, decide_eq_true_iff]
      omega
    have whole : 0x10000 + (0xd800 + (code - 0x10000) / 0x400 - 0xd800) * 0x400 +
        (0xdc00 + (code - 0x10000) % 0x400 - 0xdc00) = code := by omega
    rw [unitsOf, if_neg small, List.cons_append, List.singleton_append, joinPairs, high, low]
    exact congrArg (· :: joinPairs rest) whole

theorem joinPairs_units (text : String) : joinPairs (units text) = text.toList.map Char.toNat := by
  rw [units]
  induction text.toList with
  | nil => rfl
  | cons char rest ih =>
      have isValid : char.toNat.isValidChar := char.valid
      rw [List.flatMap_cons, joinPairs_unitsOf isValid, ih, List.map_cons]

theorem textOfCodes_units (text : String) : textOfCodes (units text) = .text text := by
  have whole : (text.toList.map Char.toNat).any
      (fun code => isHighSurrogate code || isLowSurrogate code) = false := by
    rw [List.any_eq_false]
    intro code member
    rcases List.mem_map.1 member with ⟨char, -, rfl⟩
    rcases not_surrogate_of_isValidChar char.valid with ⟨high, low⟩
    rw [Bool.or_eq_true, not_or]
    exact ⟨Bool.eq_false_iff.1 high, Bool.eq_false_iff.1 low⟩
  have same : (text.toList.map Char.toNat).map Char.ofNat = text.toList := by
    rw [List.map_map]
    exact List.map_id'' Char.ofNat_toNat text.toList
  rw [textOfCodes, joinPairs_units]
  simp only [whole, same, String.ofList_toList]
  rfl

end

end Finality.Json
