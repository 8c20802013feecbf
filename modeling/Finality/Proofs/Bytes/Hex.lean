import Finality.Bytes.Hex
import Mathlib.Logic.Function.Defs

/-!
# Bytes in hexadecimal are read back

Two digits stand for every byte, so a byte string can be told from its hexadecimal text
(`ofHexChars?_hexChars`, `toHex0x_injective`).

What is read are pairs of digits of either case with blanks between them (`Hex.Spells`,
`ofHexChars?_eq_some_iff`). Of all texts that spell a byte string, the one that is written is the
only one in lower-case digits (`Hex.eq_hexChars_iff`).
-/

namespace Finality

section

variable {value : Nat}

theorem hexValue?_hexDigit (small : value < 16) : hexValue? (hexDigit value) = some value := by
  revert value
  decide

theorem isAsciiBlank_hexDigit (small : value < 16) :
    Text.isAsciiBlank (hexDigit value) = false := by
  revert value
  decide

end

/-- The digits of a byte are those of two numbers below sixteen. -/
theorem nibbles_lt (byte : UInt8) : byte.toNat / 16 < 16 ∧ byte.toNat % 16 < 16 := by
  have bound := byte.toNat_lt
  omega

theorem ofHexChars?_hexChars (bytes : Bytes) : ofHexChars? (hexChars bytes) = some bytes := by
  induction bytes with
  | nil => rfl
  | cons byte bytes ih =>
      rcases nibbles_lt byte with ⟨high, low⟩
      have whole : 16 * (byte.toNat / 16) + byte.toNat % 16 = byte.toNat :=
        Nat.div_add_mod byte.toNat 16
      rw [hexChars, ofHexChars?, if_neg (Bool.eq_false_iff.1 (isAsciiBlank_hexDigit high))]
      simp only [hexValue?_hexDigit high, hexValue?_hexDigit low, ih]
      rw [whole, UInt8.ofNat_toNat]

theorem hexChars_injective : Function.Injective hexChars := by
  intro left right equal
  have read := ofHexChars?_hexChars left
  rw [equal, ofHexChars?_hexChars right] at read
  exact (Option.some.inj read).symm

theorem toHex_injective : Function.Injective toHex := by
  intro left right equal
  exact hexChars_injective (String.ofList_injective equal)

theorem toHex0x_injective : Function.Injective toHex0x := by
  intro left right equal
  exact toHex_injective ((String.append_right_inj "0x").1 equal)

/-! ## Texts that spell bytes -/

theorem hexValue?_cases {digit : Char} {value : Nat} (read : hexValue? digit = some value) :
    48 ≤ digit.toNat ∧ digit.toNat ≤ 57 ∧ value = digit.toNat - 48 ∨
      97 ≤ digit.toNat ∧ digit.toNat ≤ 102 ∧ value = digit.toNat - 87 ∨
        65 ≤ digit.toNat ∧ digit.toNat ≤ 70 ∧ value = digit.toNat - 55 := by
  rw [hexValue?] at read
  split at read
  · cases read
    omega
  · split at read
    · cases read
      omega
    · split at read
      · cases read
        omega
      · cases read

theorem hexValue?_lt {digit : Char} {value : Nat} (read : hexValue? digit = some value) :
    value < 16 := by
  rcases hexValue?_cases read with number | lower | upper <;> omega

theorem isAsciiBlank_of_hexValue? {digit : Char} {value : Nat}
    (read : hexValue? digit = some value) : Text.isAsciiBlank digit = false := by
  have visible : digit ≠ ' ' ∧ ¬digit.toNat ≤ 13 := by
    constructor
    · rintro rfl
      cases read
    · rcases hexValue?_cases read with number | lower | upper <;> omega
  simp [Text.isAsciiBlank, visible.1, visible.2]

namespace Hex

/-- A text that spells bytes: two digits of either case for each of them, and blanks between the
pairs of digits or around them. -/
inductive Spells : List Char → Bytes → Prop where
  | nil : Spells [] []
  | blank {char : Char} {text : List Char} {bytes : Bytes}
      (blank : Text.isAsciiBlank char = true) (rest : Spells text bytes) :
      Spells (char :: text) bytes
  | byte {high low : Char} {first second : Nat} {text : List Char} {bytes : Bytes}
      (isHigh : hexValue? high = some first) (isLow : hexValue? low = some second)
      (rest : Spells text bytes) :
      Spells (high :: low :: text) (UInt8.ofNat (16 * first + second) :: bytes)

/-- The digits that are written: the decimal ones and the first six small letters. -/
def IsWritten (digit : Char) : Prop :=
  '0' ≤ digit ∧ digit ≤ '9' ∨ 'a' ≤ digit ∧ digit ≤ 'f'

end Hex

open Hex

theorem ofHexChars?_eq_some_iff {text : List Char} {bytes : Bytes} :
    ofHexChars? text = some bytes ↔ Spells text bytes := by
  constructor
  · intro read
    fun_induction ofHexChars? text generalizing bytes with
    | case1 =>
        cases read
        exact .nil
    | case2 high rest blank ih => exact .blank blank (ih read)
    | case3 high visible => cases read
    | case4 high visible low rest first second tail isTail isLow isHigh ih =>
        cases read
        exact .byte isHigh isLow (ih isTail)
    | case5 => cases read
  · intro spells
    induction spells with
    | nil => rfl
    | blank blank rest ih =>
        rw [ofHexChars?.eq_def]
        simp [blank, ih]
    | byte isHigh isLow rest ih =>
        rw [ofHexChars?.eq_def]
        simp [isAsciiBlank_of_hexValue? isHigh, isHigh, isLow, ih]

namespace Hex

theorem Spells.ascii {text : List Char} {bytes : Bytes} (spells : Spells text bytes) :
    ∀ char ∈ text, char.toNat < 128 := by
  have digit : ∀ {char : Char} {value : Nat}, hexValue? char = some value → char.toNat < 128 := by
    intro char value read
    rcases hexValue?_cases read with number | lower | upper <;> omega
  induction spells with
  | nil => exact fun _ among => absurd among List.not_mem_nil
  | @blank char text bytes blank rest ih =>
      rw [List.forall_mem_cons]
      refine ⟨?_, ih⟩
      rw [Text.isAsciiBlank, Bool.or_eq_true, decide_eq_true_iff] at blank
      rcases blank with rfl | control
      · decide
      · rw [Bool.and_eq_true, decide_eq_true_iff, decide_eq_true_iff] at control
        omega
  | byte isHigh isLow rest ih =>
      rw [List.forall_mem_cons, List.forall_mem_cons]
      exact ⟨digit isHigh, digit isLow, ih⟩

theorem spells_hexChars (bytes : Bytes) : Spells (hexChars bytes) bytes :=
  ofHexChars?_eq_some_iff.1 (ofHexChars?_hexChars bytes)

theorem isWritten_hexDigit {value : Nat} (small : value < 16) : IsWritten (hexDigit value) := by
  revert value
  unfold IsWritten
  decide

theorem isWritten_hexChars (bytes : Bytes) : ∀ digit ∈ hexChars bytes, IsWritten digit := by
  induction bytes with
  | nil => exact fun _ among => absurd among List.not_mem_nil
  | cons byte bytes ih =>
      rw [hexChars, List.forall_mem_cons, List.forall_mem_cons]
      exact ⟨isWritten_hexDigit (nibbles_lt byte).1, isWritten_hexDigit (nibbles_lt byte).2, ih⟩

theorem exists_hexDigit {digit : Char} (written : IsWritten digit) :
    ∃ value < 16, hexDigit value = digit := by
  rcases written with ⟨least, greatest⟩ | ⟨least, greatest⟩
  · have least : 48 ≤ digit.toNat := least
    have greatest : digit.toNat ≤ 57 := greatest
    have code : 48 + (digit.toNat - 48) = digit.toNat := by omega
    refine ⟨digit.toNat - 48, by omega, ?_⟩
    rw [hexDigit, if_pos (by omega), code, Char.ofNat_toNat]
  · have least : 97 ≤ digit.toNat := least
    have greatest : digit.toNat ≤ 102 := greatest
    have code : 87 + (digit.toNat - 87) = digit.toNat := by omega
    refine ⟨digit.toNat - 87, by omega, ?_⟩
    rw [hexDigit, if_neg (by omega), code, Char.ofNat_toNat]

/-- A digit that is written is the one that is written for its value. -/
theorem hexDigit_of_isWritten {digit : Char} {value : Nat} (written : IsWritten digit)
    (read : hexValue? digit = some value) : hexDigit value = digit := by
  rcases exists_hexDigit written with ⟨known, small, rfl⟩
  rw [hexValue?_hexDigit small] at read
  cases read
  rfl

/-- A text is written for a byte string if it spells it in digits that are written. -/
theorem eq_hexChars_iff {text : List Char} {bytes : Bytes} :
    text = hexChars bytes ↔ (∀ digit ∈ text, IsWritten digit) ∧ Spells text bytes := by
  constructor
  · rintro rfl
    exact ⟨isWritten_hexChars bytes, spells_hexChars bytes⟩
  · rintro ⟨written, spells⟩
    induction spells with
    | nil => rfl
    | blank blank rest ih =>
        rcases exists_hexDigit (written _ List.mem_cons_self) with ⟨value, small, rfl⟩
        rw [isAsciiBlank_hexDigit small] at blank
        cases blank
    | @byte high low first second text bytes isHigh isLow rest ih =>
        rw [List.forall_mem_cons, List.forall_mem_cons] at written
        rcases written with ⟨highWritten, lowWritten, restWritten⟩
        have firstSmall := hexValue?_lt isHigh
        have secondSmall := hexValue?_lt isLow
        have whole : (UInt8.ofNat (16 * first + second)).toNat = 16 * first + second := by
          rw [UInt8.toNat_ofNat']
          omega
        have front : (16 * first + second) / 16 = first := by omega
        have back : (16 * first + second) % 16 = second := by omega
        rw [hexChars, whole, front, back, hexDigit_of_isWritten highWritten isHigh,
          hexDigit_of_isWritten lowWritten isLow, ih restWritten]

end Hex

end Finality
