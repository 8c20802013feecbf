import Finality.Host.Standard
import Finality.Proofs.Outcome
import Finality.Proofs.Wire.Fields
import Finality.Proofs.Wire.Lengths
import Finality.Wire.Tagged

/-!
# The tagged form is a bijection

Reading ends with a comparison, so whatever a byte string decodes to is written as that byte
string. The other direction is what `Cbor.read?_write` and `Fielded.Faithful` are for: what
is written for a message is read back. So messages and the byte strings that decode belong
to each other one by one: `Tagged.decode_iff_encode`.
-/

namespace Finality

namespace Kind

theorem url?_of_isMessage {kind : Kind} (message : kind.isMessage = true) :
    kind.url? = some (urlStem ++ kind.name) := by
  rw [url?, if_pos message]

theorem isMessage_of_url? {kind : Kind} {url : String} (named : kind.url? = some url) :
    kind.isMessage = true := by
  rw [url?] at named
  split at named
  · assumption
  · cases named

/-- A type URL belongs to one kind. -/
theorem ofUrl?_of_url? {kind : Kind} {url : String} (named : kind.url? = some url) :
    ofUrl? url = some kind := by
  cases kind <;> cases named <;> decide

theorem fits_url? {kind : Kind} {url : String} (named : kind.url? = some url) :
    Cbor.fits (.text url) = true := by
  cases kind <;> cases named <;> decide

end Kind

namespace Fielded

theorem read_of_parse [Host] {kind : Kind} {datum : Datum} {value : kind.Carrier}
    (parsed : parse kind datum = .ok value) : read kind datum = .ok value := by
  rw [read, parsed]

end Fielded

namespace Tagged

theorem encode?_eq_some_iff {value : Value} {written : Bytes} :
    encode? value = some written ↔
      ∃ url, value.kind.url? = some url ∧ Cbor.fits (envelope url value.fields) = true ∧
        Cbor.write (envelope url value.fields) = written := by
  rw [encode?, Option.bind_eq_some_iff]
  refine exists_congr fun url => and_congr_right fun _ => ?_
  simp only [Option.ite_none_right_eq_some, Option.some.injEq]

theorem fits_envelope_iff {value : Value} {url : String} (named : value.kind.url? = some url) :
    Cbor.fits (envelope url value.fields) = true ↔
      ∀ length ∈ Compact.lengths value.kind value.content, length < capacity 8 := by
  rw [← Fielded.fits_fields_iff]
  refine (Cbor.fits_record_iff rfl).trans ?_
  rw [List.forall_mem_cons, List.forall_mem_singleton, and_iff_right]
  exact Kind.fits_url? named

/-! ## The steps of reading -/

theorem kindOf_eq_ok_iff {url : String} {kind : Kind} :
    (kindOf url).mapError FormFault.decode = .ok kind ↔ Kind.ofUrl? url = some kind := by
  rw [kindOf]
  cases Kind.ofUrl? url with
  | none => exact ⟨nofun, nofun⟩
  | some known => exact ⟨fun equal => by cases equal; rfl, fun equal => by cases equal; rfl⟩

theorem expectKind_eq_ok_iff {expected : Option Kind} {kind : Kind} {url : String} :
    expectKind expected kind url = .ok () ↔ ∀ wanted ∈ expected, kind = wanted := by
  cases expected with
  | none => exact ⟨fun _ => nofun, fun _ => rfl⟩
  | some wanted =>
      rw [expectKind]
      by_cases same : wanted = kind
      · rw [if_pos same]
        exact ⟨fun _ other member => by cases member; exact same.symm, fun _ => rfl⟩
      · rw [if_neg same]
        exact ⟨nofun, fun all => absurd (all wanted rfl).symm same⟩

section

variable [Host]

theorem readMessage_eq_ok_iff {kind : Kind} {url : String} {fields : Datum} {input : Bytes}
    {value : Value} :
    readMessage kind url fields input = .ok value ↔
      ∃ content, Fielded.read kind fields = .ok content ∧ value = ⟨kind, content⟩ ∧
        encode? value = some input := by
  rw [readMessage]
  cases Fielded.read kind fields with
  | error fault =>
      cases fault with
      | decode fault => exact ⟨nofun, nofun⟩
      | invalid reason =>
          dsimp only
          split <;> exact ⟨nofun, nofun⟩
  | ok content =>
      dsimp only
      split
      · next canonical =>
        constructor
        · intro equal
          cases equal
          exact ⟨content, rfl, rfl, canonical⟩
        · rintro ⟨other, equal, rfl, -⟩
          cases equal
          rfl
      · next differs =>
        refine ⟨nofun, ?_⟩
        rintro ⟨other, equal, rfl, canonical⟩
        cases equal
        exact absurd canonical differs

/-- All that is checked of a byte string. -/
theorem decode_eq_ok_iff {expected : Option Kind} {input : Bytes} {value : Value} :
    decode expected input = .ok value ↔
      ∃ item url fields kind, Cbor.read? input = some item ∧
        openEnvelope item = .ok (url, fields) ∧ Kind.ofUrl? url = some kind ∧
        (∀ wanted ∈ expected, kind = wanted) ∧
        ∃ content, Fielded.read kind fields = .ok content ∧ value = ⟨kind, content⟩ ∧
          encode? value = some input := by
  rw [decode]
  cases Cbor.read? input with
  | none => exact ⟨nofun, nofun⟩
  | some item =>
      simp only [Outcome.bind_eq_ok_iff, kindOf_eq_ok_iff, readMessage_eq_ok_iff, Prod.exists]
      constructor
      · rintro ⟨url, fields, opened, kind, known, _, wanted, message⟩
        exact ⟨item, url, fields, kind, rfl, opened, known, expectKind_eq_ok_iff.1 wanted, message⟩
      · rintro ⟨_, url, fields, kind, same, opened, known, wanted, message⟩
        cases same
        exact ⟨url, fields, opened, kind, known, (), expectKind_eq_ok_iff.2 wanted, message⟩

/-! ## What was written is read -/

/-- An envelope is opened after its maps were sorted. -/
theorem openEnvelope_settled (url : String) (fields : Datum) :
    openEnvelope (envelope url fields).settled = .ok (url, fields.settled) := by
  refine Fielded.Reading.bind_of_settled rfl (by decide) ?_
  rfl

/-- The envelope of a message is two levels deeper than its deepest field. -/
theorem plain_envelope {url : String} {fields : Datum} (plain : Datum.Plain 6 fields) :
    Datum.Plain Host.cborDepth (envelope url fields) := by
  refine @Datum.Plain.mono 7 _ _ (.record (by simp) ?_) Host.seven_le_cborDepth
  simp only [List.forall_mem_cons]
  exact ⟨.text url, plain, nofun⟩

/-- A byte string decodes to a message exactly if it is what the message is written as. -/
theorem decode_eq_ok_iff_encode? {expected : Option Kind} {input : Bytes} {value : Value} :
    decode expected input = .ok value ↔
      (∀ wanted ∈ expected, value.kind = wanted) ∧ encode? value = some input := by
  constructor
  · intro decoded
    rcases decode_eq_ok_iff.1 decoded with
      ⟨_, _, _, kind, -, -, -, wanted, content, -, rfl, canonical⟩
    exact ⟨wanted, canonical⟩
  · rintro ⟨wanted, written⟩
    rcases value with ⟨kind, content⟩
    rcases encode?_eq_some_iff.1 written with ⟨url, named, fits, rfl⟩
    have faithful := Fielded.faithful_fields kind
    have read := Cbor.read?_write (plain_envelope (faithful.plain content)) fits
    have parsed := Fielded.read_of_parse (faithful.reads content)
    exact decode_eq_ok_iff.2 ⟨_, url, _, kind, read, openEnvelope_settled url _,
      Kind.ofUrl?_of_url? named, wanted, content, parsed, rfl, written⟩

/-- The tagged form is a bijection. A byte string decodes to a value exactly if the value is a
message, of the kind that is expected if there is one, and is written as these bytes. So every
message, unless a text, a byte string or a sequence in it is too long for any head, is written
and decodes back to itself, and no two byte strings decode to one message, whatever kinds are
expected of them. -/
theorem decode_iff_encode :
    (∀ expected input value, decode expected input = .ok value ↔
      value.kind.isMessage = true ∧ (∀ wanted ∈ expected, value.kind = wanted) ∧
        encode? value = some input) ∧
    (∀ value : Value, value.kind.isMessage = true →
      (∀ length ∈ Compact.lengths value.kind value.content, length < capacity 8) →
      ∃ written, encode? value = some written ∧ decode none written = .ok value ∧
        decode (some value.kind) written = .ok value) ∧
    ∀ expected other left right value, decode expected left = .ok value →
      decode other right = .ok value → left = right := by
  refine ⟨?_, ?_, ?_⟩
  · intro expected input value
    rw [decode_eq_ok_iff_encode?]
    constructor
    · rintro ⟨wanted, written⟩
      rcases encode?_eq_some_iff.1 written with ⟨url, named, -, -⟩
      exact ⟨Kind.isMessage_of_url? named, wanted, written⟩
    · exact And.right
  · intro value message short
    have named := Kind.url?_of_isMessage message
    have written := encode?_eq_some_iff.2 ⟨_, named, (fits_envelope_iff named).2 short, rfl⟩
    refine ⟨_, written, ?_, ?_⟩
    · exact decode_eq_ok_iff_encode?.2 ⟨nofun, written⟩
    · exact decode_eq_ok_iff_encode?.2 ⟨fun wanted member => Option.some.inj member, written⟩
  · intro expected other left right value leftDecoded rightDecoded
    have written := (decode_eq_ok_iff_encode?.1 leftDecoded).2
    rw [(decode_eq_ok_iff_encode?.1 rightDecoded).2] at written
    exact (Option.some.inj written).symm

end

/-- A header that names one validator, whose stake takes more than eight bytes, and that the
validator has not approved. -/
def unapproved : Header where
  previousHash := .zero
  nextInnerHash := .zero
  inner := ⟨1, .zero, .zero, .zero, .zero, 1, .zero, .zero⟩
  restHash := .zero
  validators :=
    some [⟨"near", ⟨.ed25519, List.replicate 32 0, rfl⟩, ⟨capacity 8, by decide⟩, by decide⟩]
  approvals := [none]

attribute [local instance] Host.standard

/-- The header is written and decodes back, with its own kind expected or without. -/
theorem decode_iff_encode_sample :
    ∃ written, encode? ⟨.header, unapproved⟩ = some written ∧
      decode none written = .ok ⟨.header, unapproved⟩ ∧
      decode (some .header) written = .ok ⟨.header, unapproved⟩ :=
  decode_iff_encode.2.1 ⟨.header, unapproved⟩ (by decide) (by decide)

end Tagged

end Finality
