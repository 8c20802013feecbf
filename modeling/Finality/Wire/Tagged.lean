import Finality.Wire.Cbor.Reader
import Finality.Wire.Cbor.Writer
import Finality.Wire.Fields

/-!
# The tagged form

A message in tagged form is a canonical CBOR map of two entries, its type URL and its
field map. Reading accepts a byte string only if writing the value again gives the same
bytes, so every message has one tagged form.
-/

namespace Finality.Tagged

/-- The envelope of a message. -/
def envelope (url : String) (fields : Datum) : Datum :=
  .record [("@type", .text url), ("value", fields)]

/-- A value in tagged form, when its kind has a type URL and all lengths in it fit. -/
def encode? (value : Value) : Option Bytes :=
  value.kind.url?.bind fun url =>
    let message := envelope url value.fields
    if Cbor.fits message then some (Cbor.write message) else none

/-- The outcome of reading a message. -/
abbrev Result (α : Type) := Except FormFault α

/-- The kind of message with a type URL. -/
def kindOf (url : String) : Except DecodeFault Kind :=
  match Kind.ofUrl? url with
  | some kind => .ok kind
  | none => .error (.unknownUrl url)

/-- The type URL and the fields in an envelope. -/
def openEnvelope [Host] (item : Datum) : Result (String × Datum) := do
  let fields ← Fielded.Reading.of "envelope" ["@type", "value"] item
  match fields.get "@type" with
  | .text url => return (url, fields.get "value")
  | _ => throw (.decode .urlNotText)

/-- Nothing, if a kind of message is the expected one. -/
def expectKind (expected : Option Kind) (kind : Kind) (url : String) : Result Unit :=
  match expected with
  | some wanted => if wanted = kind then .ok () else .error (.decode (.unexpectedKind wanted url))
  | none => .ok ()

/-- The message of a kind with the given fields, if it is written as the bytes that were read. -/
def readMessage [Host] (kind : Kind) (url : String) (fields : Datum) (input : Bytes) :
    Result Value :=
  match Fielded.read kind fields with
  | .error (.decode fault) => .error (.decode fault)
  | .error (.invalid reason) =>
    if reason.ofValue then .error (.decode (.invalidTagged url reason))
    else .error (.invalid reason)
  | .ok content =>
    let value : Value := ⟨kind, content⟩
    if encode? value = some input then .ok value else .error (.decode (.nonCanonical url))

/-- The message that a byte string is the tagged form of. With `expected`, only messages of
that kind are taken. -/
def decode [Host] (expected : Option Kind) (input : Bytes) : Result Value := do
  let some item := Cbor.read? input | throw (.decode .malformed)
  let (url, fields) ← openEnvelope item
  let kind ← (kindOf url).mapError .decode
  expectKind expected kind url
  readMessage kind url fields input

/-- The type URLs of messages with the names of their kinds, in the order of the URLs. -/
def registered : List (String × String) :=
  let urls := Fielded.sortTexts (Kind.all.filterMap Kind.url?)
  urls.filterMap fun url => (Kind.ofUrl? url).map fun kind => (url, kind.name)

/-- Why a name cannot be bound to a kind. -/
structure DuplicateUrl where
  url : String

/-- The text of the fault. -/
def DuplicateUrl.message (fault : DuplicateUrl) : String := "duplicate type url " ++ fault.url

/-- Bind a name to a kind: a name that is taken can only be bound to its own kind again. -/
def register (name : String) (kind : Kind) : Except DuplicateUrl Kind :=
  let url := Kind.urlStem ++ name
  match Kind.ofUrl? url with
  | some known => if known = kind then .ok kind else .error ⟨url⟩
  | none => .ok kind

end Finality.Tagged
