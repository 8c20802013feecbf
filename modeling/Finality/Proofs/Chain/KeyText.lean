import Finality.Chain.KeyText
import Finality.Chain.Shown
import Finality.Proofs.Bytes.Hex
import Finality.Proofs.Text.Case

/-!
# Keys are read back from their text

The text form of a key of either scheme stands for that key (`PublicKey.parse_text`). Other texts
may stand for it as well (`PublicKey.Denotes`), and every text that stands for no key is refused
for one of four reasons (`PublicKey.Refuses`). So reading a text and writing the key brings it into
the one form that keys are written in (`PublicKey.parse_normalises`).
-/

namespace Finality

namespace Scheme

theorem name_ascii (scheme : Scheme) : ∀ char ∈ scheme.name.toList, char.toNat < 128 := by
  have all : scheme.name.toList.all (fun char => decide (char.toNat < 128)) = true := by
    cases scheme <;> rfl
  exact fun char among => of_decide_eq_true (List.all_eq_true.1 all char among)

theorem colon_not_mem_name (scheme : Scheme) : ':' ∉ scheme.name.toList := by
  cases scheme <;> decide

theorem lower_name (scheme : Scheme) : Text.lower scheme.name.toList = scheme.name.toList := by
  cases scheme <;> rfl

end Scheme

namespace PublicKey

/-! ## Texts that stand for a key -/

/-- Hexadecimal digits that spell bytes, with or without the mark in front. -/
def SpellsMarked (digits : List Char) (data : Bytes) : Prop :=
  Hex.Spells digits data ∨ ∃ rest, digits = '0' :: 'x' :: rest ∧ Hex.Spells rest data

/-- A text stands for a key: the name of its scheme in either case, a colon, and digits that
spell its bytes. -/
def Denotes (text : String) (key : PublicKey) : Prop :=
  ∃ name digits, text.toList = name ++ ':' :: digits ∧
    Text.lower name = key.scheme.name.toList ∧ SpellsMarked digits key.data

/-- Why a text stands for no key. -/
inductive Refuses (text : String) : KeyTextFault → Prop where
  /-- There is no colon. -/
  | noColon (free : ':' ∉ text.toList) : Refuses text (.noColon text)
  /-- What stands before the first colon is the name of no scheme. -/
  | unknownScheme {name digits : List Char} (split : text.toList = name ++ ':' :: digits)
      (free : ':' ∉ name) (unknown : ∀ scheme : Scheme, Text.lower name ≠ scheme.name.toList) :
      Refuses text (.unknownScheme (String.ofList name))
  /-- What follows the name of a scheme spells no bytes. -/
  | notHex {scheme : Scheme} {name digits : List Char} (split : text.toList = name ++ ':' :: digits)
      (known : Text.lower name = scheme.name.toList)
      (unreadable : ∀ data, ¬SpellsMarked digits data) : Refuses text .notHex
  /-- The bytes are not as many as the scheme wants. -/
  | wrongSize {scheme : Scheme} {name digits : List Char} {data : Bytes}
      (split : text.toList = name ++ ':' :: digits)
      (known : Text.lower name = scheme.name.toList) (spells : SpellsMarked digits data)
      (size : data.length ≠ scheme.keySize) :
      Refuses text (.invalid (.keySize scheme data.length))

/-- A text is written for a key: the name of the scheme, a colon, and small digits that spell the
bytes. -/
def IsTextOf (key : PublicKey) (text : String) : Prop :=
  ∃ digits, text.toList = key.scheme.name.toList ++ ':' :: digits ∧
    (∀ digit ∈ digits, Hex.IsWritten digit) ∧ Hex.Spells digits key.data

/-! ## Names and digits -/

theorem ofHexChars?_dropHexMark {digits : List Char} {data : Bytes} :
    ofHexChars? (dropHexMark digits) = some data ↔ SpellsMarked digits data := by
  rw [SpellsMarked, ofHexChars?_eq_some_iff, dropHexMark.eq_def]
  split
  · next rest =>
    constructor
    · exact fun spells => Or.inr ⟨rest, rfl, spells⟩
    · rintro (spells | ⟨_, ⟨⟩, spells⟩)
      · -- the letter of the mark is no digit
        rcases spells with _ | blank | ⟨-, isLow, -⟩
        · cases blank
        · cases isLow
      · exact spells
  · next unmarked =>
    constructor
    · exact Or.inl
    · rintro (spells | ⟨rest, rfl, -⟩)
      · exact spells
      · exact absurd rfl (unmarked rest)

theorem schemeOf?_eq_some_iff {name : List Char} {scheme : Scheme} :
    schemeOf? (String.ofList name) = some scheme ↔ Text.lower name = scheme.name.toList := by
  have folded : schemeOf? (String.ofList name) = some scheme ↔
      scheme.name = Text.fold (String.ofList name) := by
    constructor
    · intro found
      have same := List.find?_some found
      exact eq_of_beq same
    · intro equal
      rw [schemeOf?, ← equal]
      cases scheme <;> rfl
  rw [folded, Text.lower_eq_iff_fold scheme.name_ascii, Text.fold, String.toList_ofList, eq_comm,
    ← String.toList_inj, String.toList_ofList]

theorem schemeOf?_eq_none_iff {name : List Char} :
    schemeOf? (String.ofList name) = none ↔
      ∀ scheme : Scheme, Text.lower name ≠ scheme.name.toList := by
  rw [Option.eq_none_iff_forall_ne_some]
  exact forall_congr' fun scheme => not_congr schemeOf?_eq_some_iff

/-! ## What a text is read as -/

section

variable {text : String} {name digits : List Char}

theorem parse_of_split (split : text.toList = name ++ ':' :: digits) (free : ':' ∉ name) :
    parse text =
      (schemeOf? (String.ofList name)).elim (.error (.unknownScheme (String.ofList name)))
        fun scheme =>
          (ofHexChars? (dropHexMark digits)).elim (.error .notHex)
            fun data => (ofBytes scheme data).mapError .invalid := by
  have run : ∀ char ∈ name, (char != ':') = true := by
    intro char among
    exact bne_iff_ne.2 fun equal => free (equal ▸ among)
  have colon : ∀ char ∈ (':' :: digits).head?, (char != ':') = false := by
    rintro _ ⟨⟩
    rfl
  have front := Text.takeWhile_run run colon
  have back := Text.dropWhile_run run colon
  simp only [parse, split, front, back]
  cases schemeOf? (String.ofList name) with
  | none => rfl
  | some scheme =>
      cases ofHexChars? (dropHexMark digits) with
      | none => rfl
      | some data => rfl

/-- The name of a scheme has no colon, in no case. -/
theorem colon_not_mem_of_lower {scheme : Scheme} (known : Text.lower name = scheme.name.toList) :
    ':' ∉ name := by
  intro among
  have lowered : ':' ∈ Text.lower name := List.mem_flatMap.2 ⟨':', among, List.mem_singleton_self _⟩
  rw [known] at lowered
  exact scheme.colon_not_mem_name lowered

theorem ofBytes_of_size_ne {scheme : Scheme} {data : Bytes} (size : data.length ≠ scheme.keySize) :
    ofBytes scheme data = .error (.keySize scheme data.length) :=
  dif_neg size

variable {key : PublicKey} {fault : KeyTextFault}

theorem Denotes.parse (denotes : Denotes text key) : parse text = .ok key := by
  rcases denotes with ⟨name, digits, split, known, spells⟩
  simp only [parse_of_split split (colon_not_mem_of_lower known), schemeOf?_eq_some_iff.2 known,
    ofHexChars?_dropHexMark.2 spells, Option.elim_some, ofBytes_data]
  rfl

theorem Refuses.parse (refuses : Refuses text fault) : parse text = .error fault := by
  cases refuses with
  | noColon free =>
      have stays : ∀ char ∈ text.toList, (char != ':') = true := by
        intro char among
        exact bne_iff_ne.2 fun equal => free (equal ▸ among)
      simp only [PublicKey.parse, List.dropWhile_eq_nil_iff.2 stays]
  | unknownScheme split free unknown =>
      simp only [parse_of_split split free, schemeOf?_eq_none_iff.2 unknown, Option.elim_none]
  | notHex split known unreadable =>
      have none := Option.eq_none_iff_forall_ne_some.2 fun data read =>
        unreadable data (ofHexChars?_dropHexMark.1 read)
      simp only [parse_of_split split (colon_not_mem_of_lower known),
        schemeOf?_eq_some_iff.2 known, none, Option.elim_some, Option.elim_none]
  | wrongSize split known spells size =>
      simp only [parse_of_split split (colon_not_mem_of_lower known), schemeOf?_eq_some_iff.2 known,
        ofHexChars?_dropHexMark.2 spells, ofBytes_of_size_ne size, Option.elim_some]
      rfl

/-- Every text stands for a key or is refused. -/
theorem denotes_or_refuses (text : String) :
    (∃ key, Denotes text key) ∨ ∃ fault, Refuses text fault := by
  by_cases colon : ':' ∈ text.toList
  · rcases List.eq_append_cons_of_mem colon with ⟨name, digits, split, free⟩
    by_cases known : ∃ scheme : Scheme, Text.lower name = scheme.name.toList
    · rcases known with ⟨scheme, known⟩
      by_cases readable : ∃ data, SpellsMarked digits data
      · rcases readable with ⟨data, spells⟩
        by_cases size : data.length = scheme.keySize
        · exact Or.inl ⟨⟨scheme, data, size⟩, name, digits, split, known, spells⟩
        · exact Or.inr ⟨_, .wrongSize split known spells size⟩
      · exact Or.inr ⟨_, .notHex split known (not_exists.1 readable)⟩
    · exact Or.inr ⟨_, .unknownScheme split free (not_exists.1 known)⟩
  · exact Or.inr ⟨_, .noColon colon⟩

theorem parse_eq_ok_iff : parse text = .ok key ↔ Denotes text key := by
  constructor
  · intro read
    rcases denotes_or_refuses text with ⟨known, denotes⟩ | ⟨fault, refuses⟩
    · rw [denotes.parse] at read
      cases read
      exact denotes
    · rw [refuses.parse] at read
      cases read
  · exact Denotes.parse

theorem parse_eq_error_iff : parse text = .error fault ↔ Refuses text fault := by
  constructor
  · intro failed
    rcases denotes_or_refuses text with ⟨key, denotes⟩ | ⟨known, refuses⟩
    · rw [denotes.parse] at failed
      cases failed
    · rw [refuses.parse] at failed
      cases failed
      exact refuses
  · exact Refuses.parse

theorem SpellsMarked.ascii {data : Bytes} (spells : SpellsMarked digits data) :
    ∀ char ∈ digits, char.toNat < 128 := by
  rcases spells with spells | ⟨rest, rfl, spells⟩
  · exact spells.ascii
  · rw [List.forall_mem_cons, List.forall_mem_cons]
    exact ⟨by decide, by decide, spells.ascii⟩

/-- The characters of a text that stands for a key are ASCII, but the Kelvin sign may be among
them. -/
theorem Denotes.ascii_or_kelvin (denotes : Denotes text key) :
    ∀ char ∈ text.toList, char.toNat < 128 ∨ char = Text.kelvin := by
  rcases denotes with ⟨name, digits, split, known, spells⟩
  rw [split, List.forall_mem_append, List.forall_mem_cons]
  refine ⟨?_, Or.inl (by decide), fun char among => Or.inl (spells.ascii char among)⟩
  intro char among
  have folded := (Text.lower_eq_iff_fold key.scheme.name_ascii).1 known
  apply Text.ascii_or_kelvin
  apply key.scheme.name_ascii
  rw [← folded]
  exact List.mem_map_of_mem among

/-- A text with the half of a surrogate pair stands for no key. -/
theorem Denotes.isWhole (denotes : Denotes text key) : Text.isWhole text = true := by
  apply List.all_eq_true.2
  intro char among
  have low : char.toNat < Text.standInShift := by
    rcases denotes.ascii_or_kelvin char among with ascii | rfl
    · exact Nat.lt_trans ascii (by decide)
    · decide
  rw [Text.isStandIn, decide_eq_false (Nat.not_le.2 low)]
  rfl

end

/-! ## The text of a key -/

theorem toList_text (key : PublicKey) :
    key.text.toList = key.scheme.name.toList ++ ':' :: hexChars key.data := by
  rw [text, toHex, String.toList_append, String.toList_append, List.append_assoc]
  rw [@String.toList_ofList (hexChars key.data)]
  rfl

theorem parse_text (key : PublicKey) : parse key.text = .ok key :=
  Denotes.parse ⟨_, _, key.toList_text, key.scheme.lower_name, Or.inl (Hex.spells_hexChars _)⟩

/-- The text of a key is the only one that is written for it. -/
theorem eq_text_iff {key : PublicKey} {text : String} : text = key.text ↔ IsTextOf key text := by
  rw [IsTextOf, ← String.toList_inj, toList_text]
  constructor
  · intro equal
    exact ⟨_, equal, Hex.eq_hexChars_iff.1 rfl⟩
  · rintro ⟨digits, equal, written⟩
    rw [equal, Hex.eq_hexChars_iff.2 written]

/-- The text of a key is the one text that is written for it, and it is read as that key. Which
other texts are read as the key is settled as well; none of them has the half of a surrogate pair.
A text that is read as no key is refused in words, for a reason that is one of the text. -/
theorem parse_normalises (text : String) (key : PublicKey) :
    parse key.text = .ok key ∧
    (∀ written, written = key.text ↔ IsTextOf key written) ∧
    (parse text = .ok key ↔ Denotes text key) ∧
    (parse text = .ok key → Text.isWhole text = true) ∧
    ((∀ other, parse text ≠ .ok other) →
      ∃ fault, parse text = .error fault ∧ Refuses text fault) := by
  refine ⟨parse_text key, fun written => eq_text_iff, parse_eq_ok_iff, ?_, ?_⟩
  · intro read
    exact (parse_eq_ok_iff.1 read).isWhole
  · intro unread
    cases outcome : parse text with
    | ok other => exact absurd outcome (unread other)
    | error fault => exact ⟨fault, rfl, parse_eq_error_iff.1 outcome⟩

namespace Sample

/-- A key of 64 equal bytes. -/
def even : PublicKey := ⟨.secp256k1, List.replicate 64 0xab, rfl⟩

/-- Digits for its bytes, one of each pair in upper case and with a blank after every pair. -/
def spaced : List Char := (List.replicate 64 ['a', 'B', ' ']).flatten

/-- A text for it with capitals, the Kelvin sign and the mark. -/
def loose : String := String.ofList ("SecP256\u212a1".toList ++ ':' :: '0' :: 'x' :: spaced)

theorem denotes_loose : Denotes loose even := by
  have spells : ofHexChars? spaced = some even.data := by decide +kernel
  exact ⟨_, _, String.toList_ofList, by decide +kernel,
    Or.inr ⟨spaced, rfl, ofHexChars?_eq_some_iff.1 spells⟩⟩

theorem loose_ne_text : loose ≠ even.text := by
  intro equal
  have chars : "SecP256\u212a1".toList ++ ':' :: '0' :: 'x' :: spaced =
      even.scheme.name.toList ++ ':' :: hexChars even.data :=
    String.toList_ofList.symm.trans ((congrArg String.toList equal).trans (toList_text even))
  have first : 'S' = 's' := (List.cons.inj chars).1
  exact absurd first (by decide)

end Sample

/-- A loose text is read as a key, which is written in another way, and a text without a colon is
refused. -/
theorem parse_normalises_sample :
    parse Sample.loose = .ok Sample.even ∧ Text.isWhole Sample.loose = true ∧
      ¬IsTextOf Sample.even Sample.loose ∧ parse Sample.even.text = .ok Sample.even ∧
      ∃ fault, parse "deadbeef" = .error fault ∧ Refuses "deadbeef" fault := by
  have unread : ∀ key, parse "deadbeef" ≠ .ok key := by
    intro key equal
    cases equal
  rcases parse_normalises Sample.loose Sample.even with ⟨back, written, denotes, whole, -⟩
  have read := denotes.2 Sample.denotes_loose
  exact ⟨read, whole read, fun isText => Sample.loose_ne_text ((written _).2 isText), back,
    (parse_normalises "deadbeef" Sample.even).2.2.2.2 unread⟩

end PublicKey

end Finality
