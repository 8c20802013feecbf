import Finality.Host
import Finality.Wire.Fault

/-!
# Field maps

In tagged form every kind of value is a map from field names to data. `Value.fields` gives
the map of a value; `Fielded.read` takes a map apart again. A map must have exactly
the fields of its kind, and every field must be of the right type, before the parts are
put together.
-/

namespace Finality

namespace Fielded

/-! ## Fields of values -/

def ofWord (word : UInt64) : Datum := .nat word.toNat

def ofHash (hash : Hash) : Datum := .bytes hash.bytes

/-- An optional part. -/
def ofOption {α : Type} (item : α → Datum) : Option α → Datum
  | none => .null
  | some value => item value

def ofHeight (height : Height) : Datum :=
  .record
    [("revision_number", ofWord height.revision), ("revision_height", ofWord height.block)]

def ofPublicKey (key : PublicKey) : Datum :=
  .record [("key_type", .nat key.scheme.tag), ("data", .bytes key.data)]

def ofSignature (signature : Signature) : Datum :=
  .record [("key_type", .nat signature.scheme.tag), ("data", .bytes signature.data)]

def ofValidator (validator : Validator) : Datum :=
  .record
    [("account_id", .text validator.account), ("public_key", ofPublicKey validator.key),
      ("stake", .nat validator.stake.units)]

def ofValidators (validators : List Validator) : Datum := .list (validators.map ofValidator)

def ofRoster (roster : Roster) : Datum :=
  .record [("validators", ofValidators roster.validators)]

def ofClientState (state : ClientState) : Datum :=
  .record
    [("latest_height", ofHeight state.latestHeight),
      ("latest_timestamp", ofWord state.latestTimestamp),
      ("trusting_period", ofWord state.trustingPeriod),
      ("max_clock_drift", ofWord state.maxClockDrift),
      ("frozen_height", ofOption ofHeight state.frozenHeight)]

def ofConsensusState (state : ConsensusState) : Datum :=
  .record
    [("timestamp", ofWord state.timestamp), ("state_root", ofHash state.stateRoot),
      ("epoch_id", ofHash state.epochId), ("next_epoch_id", ofHash state.nextEpochId),
      ("next_bp_hash", ofHash state.nextRosterHash), ("block_hash", ofHash state.blockHash)]

def ofInnerHeader (inner : InnerHeader) : Datum :=
  .record
    [("height", ofWord inner.height), ("epoch_id", ofHash inner.epochId),
      ("next_epoch_id", ofHash inner.nextEpochId), ("prev_state_root", ofHash inner.stateRoot),
      ("outcome_root", ofHash inner.outcomeRoot), ("timestamp", ofWord inner.timestamp),
      ("next_bp_hash", ofHash inner.nextRosterHash),
      ("block_merkle_root", ofHash inner.blockRoot)]

def ofHeader (header : Header) : Datum :=
  .record
    [("prev_block_hash", ofHash header.previousHash),
      ("next_block_inner_hash", ofHash header.nextInnerHash),
      ("inner_lite", ofInnerHeader header.inner), ("inner_rest_hash", ofHash header.restHash),
      ("validators", ofOption ofValidators header.validators),
      ("approvals_after_next", .list (header.approvals.map (ofOption ofSignature)))]

def ofMisbehaviour (misbehaviour : Misbehaviour) : Datum :=
  .record
    [("client_id", .text misbehaviour.clientId),
      ("trusted_height", ofHeight misbehaviour.trustedHeight),
      ("header_1", ofHeader misbehaviour.first), ("header_2", ofHeader misbehaviour.second)]

def ofProofStep (step : ProofStep) : Datum :=
  .record [("hash", ofHash step.sibling), ("position", .nat step.side.tag)]

def ofProof (proof : Proof) : Datum :=
  .record [("leaf", .bytes proof.leaf), ("steps", .list (proof.steps.map ofProofStep))]

/-! ## Values of fields -/

/-- The outcome of taking data apart. -/
abbrev Result (α : Type) := Except FormFault α

def fail {α : Type} (fault : DecodeFault) : Result α := .error (.decode fault)

/-- Parts that make a value, or a reason why they do not. -/
def checked {α : Type} (result : Except Invalid α) : Result α := result.mapError .invalid

/-- A text placed among others in the order of codes. -/
def placeText (text : String) : List String → List String
  | [] => [text]
  | other :: texts => if other < text then other :: placeText text texts else text :: other :: texts

/-- Texts in the order of codes. -/
def sortTexts : List String → List String
  | [] => []
  | text :: texts => placeText text (sortTexts texts)

/-- The text of a key. An integer that is too long has none, and neither has a mail message that
the host cannot write. -/
def keyText (key : Datum) : Result String :=
  match key with
  | .special ⟨_, _, .error error, _⟩ => .error (.invalid (.host error))
  | key => if key.hasLongNumber then .error (.invalid .longNumber) else .ok key.display

/-- The keys of a map that are not among the names of its fields. -/
def unexpected (names : List String) (entries : List (Datum × Datum)) : List Datum :=
  (entries.map (·.1)).filter fun key =>
    match key with
    | .text name => !names.contains name
    | _ => true

section

variable [Host]

/-- The values of the named fields of a map that has exactly those. A fault names the keys that
are not expected, unless one of them has no text. -/
def fields (place : String) (names : List String) (datum : Datum) : Result (List Datum) :=
  match datum with
  | .map entries =>
    let missing := names.filter fun name => (Datum.lookup? name entries).isNone
    let extra := unexpected names entries
    if missing.isEmpty && extra.isEmpty then
      .ok (names.map fun name => (Datum.lookup? name entries).getD .null)
    else do
      let extra ← (Host.visited extra).mapM keyText
      fail (.wrongFields place (sortTexts missing) (sortTexts extra))
  | datum => fail (.notMap place datum.typeName)

/-- The named fields of a map by their names. -/
structure Reading where
  values : List (String × Datum)

namespace Reading

/-- A map read as the named fields. -/
def of (place : String) (names : List String) (datum : Datum) : Result Reading :=
  (fields place names datum).map fun values => ⟨names.zip values⟩

/-- The datum of a field. -/
def get (reading : Reading) (name : String) : Datum :=
  ((reading.values.find? fun field => field.1 = name).map (·.2)).getD .null

/-- An unsigned integer. -/
def nat (reading : Reading) (name : String) : Result Nat :=
  match reading.get name with
  | .int value => if 0 ≤ value then .ok value.toNat else fail (.notUnsigned name)
  | _ => fail (.notUnsigned name)

/-- A byte string. -/
def bytes (reading : Reading) (name : String) : Result Bytes :=
  match reading.get name with
  | .bytes value => .ok value
  | _ => fail (.notByteString name)

/-- A hash. -/
def hash (reading : Reading) (name : String) : Result Hash := do
  let data ← reading.bytes name
  match Hash.ofBytes? data with
  | some hash => .ok hash
  | none => fail (.byteStringSize name hashSize data.length)

/-- A text. -/
def text (reading : Reading) (name : String) : Result String :=
  match reading.get name with
  | .text value => .ok value
  | .brokenText codes => .error (.invalid (.brokenText codes))
  | _ => fail (.notText name)

/-- The items of an array. -/
def list {α : Type} (reading : Reading) (name : String) (item : Datum → Result α) :
    Result (List α) :=
  match reading.get name with
  | .list items => items.mapM item
  | _ => fail (.notArray name)

/-- A part that is a value itself. -/
def part {α : Type} (reading : Reading) (name : String) (item : Datum → Result α) : Result α :=
  item (reading.get name)

/-- A part that may be absent. -/
def option {α : Type} (reading : Reading) (name : String)
    (item : Reading → String → Result α) : Result (Option α) :=
  match reading.get name with
  | .null => .ok none
  | _ => (item reading name).map some

end Reading

/-- A datum that may be absent. -/
def toOption {α : Type} (item : Datum → Result α) : Datum → Result (Option α)
  | .null => .ok none
  | datum => (item datum).map some

def toHeight (datum : Datum) : Result Height := do
  let fields ← Reading.of "height" ["revision_number", "revision_height"] datum
  let revision ← fields.nat "revision_number"
  let block ← fields.nat "revision_height"
  checked (Height.ofNumbers revision block)

/-- The scheme with a tag. -/
def toScheme (tag : Nat) : Result Scheme :=
  match Scheme.ofTag? tag with
  | some scheme => .ok scheme
  | none => fail (.scheme tag)

def toPublicKey (datum : Datum) : Result PublicKey := do
  let fields ← Reading.of "public_key" ["key_type", "data"] datum
  let scheme ← toScheme (← fields.nat "key_type")
  let data ← fields.bytes "data"
  checked (PublicKey.ofBytes scheme data)

def toSignature (datum : Datum) : Result Signature := do
  let fields ← Reading.of "signature" ["key_type", "data"] datum
  let scheme ← toScheme (← fields.nat "key_type")
  let data ← fields.bytes "data"
  checked (Signature.ofBytes scheme data)

def toValidator (datum : Datum) : Result Validator := do
  let fields ← Reading.of "validator" ["account_id", "public_key", "stake"] datum
  let account ← fields.text "account_id"
  let key ← fields.part "public_key" toPublicKey
  let stake ← fields.nat "stake"
  checked (Validator.ofFields account key stake)

def toRoster (datum : Datum) : Result Roster := do
  let fields ← Reading.of "validator_set" ["validators"] datum
  let validators ← fields.list "validators" toValidator
  checked (Roster.ofValidators validators)

def toClientState (datum : Datum) : Result ClientState := do
  let fields ← Reading.of "client_state"
    ["latest_height", "latest_timestamp", "trusting_period", "max_clock_drift",
      "frozen_height"] datum
  let latest ← fields.part "latest_height" toHeight
  let timestamp ← fields.nat "latest_timestamp"
  let period ← fields.nat "trusting_period"
  let drift ← fields.nat "max_clock_drift"
  let frozen ← fields.part "frozen_height" (toOption toHeight)
  let timestamp ← checked (word "latest_timestamp" timestamp)
  let period ← checked (word "trusting_period" period)
  let drift ← checked (word "max_clock_drift" drift)
  checked (ClientState.ofFields latest timestamp period drift frozen)

def toConsensusState (datum : Datum) : Result ConsensusState := do
  let fields ← Reading.of "consensus_state"
    ["timestamp", "state_root", "epoch_id", "next_epoch_id", "next_bp_hash", "block_hash"] datum
  let timestamp ← fields.nat "timestamp"
  let stateRoot ← fields.hash "state_root"
  let epochId ← fields.hash "epoch_id"
  let nextEpochId ← fields.hash "next_epoch_id"
  let nextRosterHash ← fields.hash "next_bp_hash"
  let blockHash ← fields.hash "block_hash"
  let timestamp ← checked (word "timestamp" timestamp)
  return ⟨timestamp, stateRoot, epochId, nextEpochId, nextRosterHash, blockHash⟩

def toInnerHeader (datum : Datum) : Result InnerHeader := do
  let fields ← Reading.of "inner_lite"
    ["height", "epoch_id", "next_epoch_id", "prev_state_root", "outcome_root", "timestamp",
      "next_bp_hash", "block_merkle_root"] datum
  let height ← fields.nat "height"
  let epochId ← fields.hash "epoch_id"
  let nextEpochId ← fields.hash "next_epoch_id"
  let stateRoot ← fields.hash "prev_state_root"
  let outcomeRoot ← fields.hash "outcome_root"
  let timestamp ← fields.nat "timestamp"
  let nextRosterHash ← fields.hash "next_bp_hash"
  let blockRoot ← fields.hash "block_merkle_root"
  let height ← checked (word "height" height)
  let timestamp ← checked (word "timestamp" timestamp)
  return ⟨height, epochId, nextEpochId, stateRoot, outcomeRoot, timestamp, nextRosterHash,
    blockRoot⟩

def toHeader (datum : Datum) : Result Header := do
  let fields ← Reading.of "header"
    ["prev_block_hash", "next_block_inner_hash", "inner_lite", "inner_rest_hash", "validators",
      "approvals_after_next"] datum
  let previousHash ← fields.hash "prev_block_hash"
  let nextInnerHash ← fields.hash "next_block_inner_hash"
  let inner ← fields.part "inner_lite" toInnerHeader
  let restHash ← fields.hash "inner_rest_hash"
  let validators ← fields.option "validators" fun fields name => fields.list name toValidator
  let approvals ← fields.list "approvals_after_next" (toOption toSignature)
  return ⟨previousHash, nextInnerHash, inner, restHash, validators, approvals⟩

def toMisbehaviour (datum : Datum) : Result Misbehaviour := do
  let fields ← Reading.of "misbehaviour"
    ["client_id", "trusted_height", "header_1", "header_2"] datum
  let clientId ← fields.text "client_id"
  let trustedHeight ← fields.part "trusted_height" toHeight
  let first ← fields.part "header_1" toHeader
  let second ← fields.part "header_2" toHeader
  return ⟨clientId, trustedHeight, first, second⟩

def toProofStep (datum : Datum) : Result ProofStep := do
  let fields ← Reading.of "proof_step" ["hash", "position"] datum
  let tag ← fields.nat "position"
  match Side.ofTag? tag with
  | none => fail (.side tag)
  | some side => return ⟨← fields.hash "hash", side⟩

def toProof (datum : Datum) : Result Proof := do
  let fields ← Reading.of "proof" ["leaf", "steps"] datum
  let leaf ← fields.bytes "leaf"
  let steps ← fields.list "steps" toProofStep
  return ⟨leaf, steps⟩

/-- The value of a kind with the given fields, whose first broken text refuses the whole at
once. -/
def parse : (kind : Kind) → Datum → Result kind.Carrier
  | .height => toHeight
  | .clientState => toClientState
  | .consensusState => toConsensusState
  | .header => toHeader
  | .misbehaviour => toMisbehaviour
  | .proof => toProof
  | .innerHeader => toInnerHeader
  | .proofStep => toProofStep
  | .publicKey => toPublicKey
  | .signature => toSignature
  | .validator => toValidator
  | .roster => toRoster

mutual

/-- A datum with whole texts in the place of broken ones. -/
def mended : Datum → Datum
  | .brokenText _ => .text "?"
  | .list items => .list (mendedItems items)
  | .map entries => .map (mendedEntries entries)
  | datum => datum

/-- The items of a list with whole texts. -/
def mendedItems : List Datum → List Datum
  | [] => []
  | item :: items => mended item :: mendedItems items

/-- The entries of a map whose values have whole texts. -/
def mendedEntries : List (Datum × Datum) → List (Datum × Datum)
  | [] => []
  | (key, value) :: entries => (key, mended value) :: mendedEntries entries

end

/-- The value of a kind with the given fields. That a text is broken is found last, when all else
is in order. -/
def read (kind : Kind) (datum : Datum) : Result kind.Carrier :=
  match parse kind datum with
  | .error (.invalid (.brokenText codes)) =>
    match parse kind (mended datum) with
    | .error fault => .error fault
    | .ok _ => .error (.invalid (.brokenText codes))
  | result => result

end

end Fielded

/-- The fields of a value. -/
def Value.fields : Value → Datum
  | ⟨.height, value⟩ => Fielded.ofHeight value
  | ⟨.clientState, value⟩ => Fielded.ofClientState value
  | ⟨.consensusState, value⟩ => Fielded.ofConsensusState value
  | ⟨.header, value⟩ => Fielded.ofHeader value
  | ⟨.misbehaviour, value⟩ => Fielded.ofMisbehaviour value
  | ⟨.proof, value⟩ => Fielded.ofProof value
  | ⟨.innerHeader, value⟩ => Fielded.ofInnerHeader value
  | ⟨.proofStep, value⟩ => Fielded.ofProofStep value
  | ⟨.publicKey, value⟩ => Fielded.ofPublicKey value
  | ⟨.signature, value⟩ => Fielded.ofSignature value
  | ⟨.validator, value⟩ => Fielded.ofValidator value
  | ⟨.roster, value⟩ => Fielded.ofRoster value

end Finality
