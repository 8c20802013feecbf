import Finality.Chain.Invalid

/-!
# Parts of any type

A host can put a value together from parts whose types nobody has checked. Numbers, hashes,
schemes and sides are checked one by one, in an order that each kind of value sets. A part that
should be a value itself may be one of any kind.
-/

namespace Finality

/-- Why given parts of any type make no value. -/
inductive BuildFault where
  /-- A check of the kind fails. -/
  | invalid (reason : Invalid)
  /-- The number of parts is wrong, or a part cannot be taken apart. -/
  | wrongType
  /-- A part is no part of such a value. -/
  | wrongPart

namespace Build

/-- The outcome of putting a value together. -/
abbrev Result (α : Type) := Except BuildFault α

def invalid {α : Type} (reason : Invalid) : Result α := .error (.invalid reason)

def checked {α : Type} (result : Except Invalid α) : Result α := result.mapError .invalid

/-- A 64-bit word. -/
def word (field : String) (part : Datum) : Result UInt64 :=
  match part with
  | .int value =>
    if 0 ≤ value ∧ value < capacity 8 then .ok (UInt64.ofNat value.toNat)
    else invalid (.notWord field part)
  | _ => invalid (.notWord field part)

/-- A hash. -/
def hash (field : String) (part : Datum) : Result Hash :=
  match part with
  | .bytes data =>
    match Hash.ofBytes? data with
    | some hash => .ok hash
    | none => invalid (.notHash field)
  | _ => invalid (.notHash field)

/-- A value of any kind. -/
def value (part : Datum) : Result Value :=
  match part with
  | .object value => .ok value
  | _ => .error .wrongPart

/-- A value of any kind that may be absent. -/
def optionalValue (part : Datum) : Result (Option Value) :=
  match part with
  | .null => .ok none
  | part => (value part).map some

/-- A validator. -/
def validator (part : Datum) : Result Validator :=
  match part with
  | .object ⟨.validator, validator⟩ => .ok validator
  | _ => .error .wrongPart

/-- A scheme, given by its tag. -/
def scheme (part : Datum) : Result Scheme :=
  match part.integral?.bind fun tag => if 0 ≤ tag then Scheme.ofTag? tag.toNat else none with
  | some scheme => .ok scheme
  | none => invalid (.noScheme part)

/-- A side, given by its tag. -/
def side (part : Datum) : Result Side :=
  match part.integral?.bind fun tag => if 0 ≤ tag then Side.ofTag? tag.toNat else none with
  | some side => .ok side
  | none => invalid (.noSide part)

/-- The bytes of a key or a signature, whose size is checked before their type. -/
def sizedBytes (size : Nat) (fault : Nat → Invalid) (part : Datum) : Result Bytes :=
  match part with
  | .bytes data => .ok data
  | part =>
    match part.elements? with
    | some items => if items.length = size then .error .wrongType else invalid (fault items.length)
    | none => .error .wrongType

/-- The items of a part. -/
def items (part : Datum) : Result (List Datum) :=
  match part.elements? with
  | some items => .ok items
  | none => .error .wrongType

/-- A text. -/
def text (part : Datum) : Result String :=
  match part with
  | .text value => .ok value
  | .brokenText codes => invalid (.brokenText codes)
  | _ => .error .wrongPart

def height (revision block : Datum) : Result Height := do
  let revision ← word "revision_number" revision
  let block ← word "revision_height" block
  return ⟨revision, block⟩

def consensusState (timestamp stateRoot epochId nextEpochId nextRosterHash blockHash : Datum) :
    Result ConsensusState := do
  return {
    timestamp := ← word "timestamp" timestamp
    stateRoot := ← hash "state_root" stateRoot
    epochId := ← hash "epoch_id" epochId
    nextEpochId := ← hash "next_epoch_id" nextEpochId
    nextRosterHash := ← hash "next_bp_hash" nextRosterHash
    blockHash := ← hash "block_hash" blockHash }

def innerHeader (height epochId nextEpochId stateRoot outcomeRoot timestamp nextRosterHash
    blockRoot : Datum) : Result InnerHeader := do
  let height ← word "height" height
  let timestamp ← word "timestamp" timestamp
  return {
    height, timestamp
    epochId := ← hash "epoch_id" epochId
    nextEpochId := ← hash "next_epoch_id" nextEpochId
    stateRoot := ← hash "prev_state_root" stateRoot
    outcomeRoot := ← hash "outcome_root" outcomeRoot
    nextRosterHash := ← hash "next_bp_hash" nextRosterHash
    blockRoot := ← hash "block_merkle_root" blockRoot }

def proofStep (sibling position : Datum) : Result ProofStep := do
  let sibling ← hash "hash" sibling
  let side ← side position
  return ⟨sibling, side⟩

def publicKey (tag data : Datum) : Result PublicKey := do
  let scheme ← scheme tag
  let data ← sizedBytes scheme.keySize (.keySize scheme) data
  checked (PublicKey.ofBytes scheme data)

def signature (tag data : Datum) : Result Signature := do
  let scheme ← scheme tag
  let data ← sizedBytes scheme.signatureSize (.signatureSize scheme) data
  checked (Signature.ofBytes scheme data)

def roster (validators : Datum) : Result Roster := do
  let parts ← items validators
  if parts.isEmpty then invalid .noValidator
  let validators ← parts.mapM validator
  checked (Roster.ofValidators validators)

end Build

end Finality
