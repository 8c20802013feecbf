import Finality.Bytes

/-!
# Unpaired surrogates

A text that comes from outside can hold the half of a surrogate pair, which no string can.
Where such a text is part of a message, each half is replaced by a stand-in from a private
range of characters, and a text is whole when it holds no stand-in. A half read from its
stand-in is the half that was written (`codeOf_charOf`).
-/

namespace Finality.Text

/-- Whether a code is the half of a surrogate pair. -/
def isSurrogate (code : Nat) : Bool := 0xd800 ≤ code && code < 0xe000

/-- How far the stand-ins are above the halves that they stand for. -/
def standInShift : Nat := 0x101800

/-- The character of a code, or the stand-in for it. -/
def charOf (code : Nat) : Char :=
  if isSurrogate code then Char.ofNat (code + standInShift) else Char.ofNat code

/-- Whether a character is a stand-in. -/
def isStandIn (char : Char) : Bool :=
  standInShift ≤ char.toNat && isSurrogate (char.toNat - standInShift)

/-- The code that a character has or stands for. -/
def codeOf (char : Char) : Nat :=
  if isStandIn char then char.toNat - standInShift else char.toNat

/-- The text of some codes. -/
def ofCodes (codes : List Nat) : String := String.ofList (codes.map charOf)

/-- The codes of a text. -/
def codes (text : String) : List Nat := text.toList.map codeOf

/-- Whether a text has a UTF-8 form: it holds no stand-in. -/
def isWhole (text : String) : Bool := text.toList.all fun char => !isStandIn char

theorem codeOf_charOf {code : Nat} (h : isSurrogate code) : codeOf (charOf code) = code := by
  have h' := h
  simp only [isSurrogate, Bool.and_eq_true, decide_eq_true_eq] at h'
  have hvalid : (code + standInShift).isValidChar := by
    right
    simp only [standInShift]
    omega
  have hnat : (Char.ofNat (code + standInShift)).toNat = code + standInShift := by
    rw [Char.ofNat, dif_pos hvalid]
    rfl
  simp [codeOf, charOf, h, isStandIn, hnat]

end Finality.Text
