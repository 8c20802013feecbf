import Finality.Bytes

/-!
# Text as UTF-8

A text is stored as its UTF-8 bytes, so reading accepts exactly the byte strings that
writing produces (`ofUtf8?_eq_some_iff`): overlong forms, surrogates and values above
U+10FFFF are no text.
-/

namespace Finality

/-- The UTF-8 bytes of a text. -/
def utf8 (text : String) : Bytes := text.toByteArray.data.toList

/-- The text with the given UTF-8 bytes, when there is one. -/
def ofUtf8? (bytes : Bytes) : Option String := String.fromUTF8? (ByteArray.mk bytes.toArray)

theorem ofUtf8?_utf8 (text : String) : ofUtf8? (utf8 text) = some text := by
  have hdata : ByteArray.mk (utf8 text).toArray = text.toByteArray := by
    simp [utf8]
  have hvalid := text.isValidUTF8
  simp [ofUtf8?, hdata, String.fromUTF8?, hvalid, String.fromUTF8]

theorem utf8_of_ofUtf8? {bytes : Bytes} {text : String} (h : ofUtf8? bytes = some text) :
    utf8 text = bytes := by
  simp only [ofUtf8?, String.fromUTF8?] at h
  split at h
  · cases h; simp [utf8, String.fromUTF8]
  · cases h

theorem ofUtf8?_eq_some_iff {bytes : Bytes} {text : String} :
    ofUtf8? bytes = some text ↔ utf8 text = bytes :=
  ⟨utf8_of_ofUtf8?, fun h => h ▸ ofUtf8?_utf8 text⟩

theorem utf8_injective {left right : String} (h : utf8 left = utf8 right) : left = right := by
  have hleft := ofUtf8?_utf8 left
  rw [h, ofUtf8?_utf8 right] at hleft
  exact (Option.some.inj hleft).symm

end Finality
