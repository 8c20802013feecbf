import Finality.Chain.Value
import Finality.Text.Quoted

/-!
# Values as text

Keys and heights have a text form of their own. Every kind of value also has a full
description: its published name and its fields by name, in order.
-/

namespace Finality

/-- A public key in text: the scheme's name, a colon and the bytes in hexadecimal. -/
def PublicKey.text (key : PublicKey) : String := key.scheme.name ++ ":" ++ toHex key.data

namespace Shown

/-- A name with fields. -/
def record (name : String) (fields : List (String × String)) : String :=
  name ++ "(" ++ ", ".intercalate (fields.map fun (field, shown) => field ++ "=" ++ shown) ++ ")"

/-- Items in parentheses, with a comma after a single one. -/
def tuple (items : List String) : String :=
  match items with
  | [item] => "(" ++ item ++ ",)"
  | items => "(" ++ ", ".intercalate items ++ ")"

/-- An optional item. -/
def option {α : Type} (item : α → String) : Option α → String
  | none => "None"
  | some value => item value

def hash (hash : Hash) : String := Text.quotedBytes hash.bytes

def word (word : UInt64) : String := toString word.toNat

def scheme : Scheme → String
  | .ed25519 => "<KeyType.ED25519: 0>"
  | .secp256k1 => "<KeyType.SECP256K1: 1>"

def side : Side → String
  | .right => "<SiblingPosition.RIGHT: 0>"
  | .left => "<SiblingPosition.LEFT: 1>"

def height (height : Height) : String :=
  record "Height"
    [("revision_number", word height.revision), ("revision_height", word height.block)]

def clientState (state : ClientState) : String :=
  record "ClientState"
    [("latest_height", height state.latestHeight),
      ("latest_timestamp", word state.latestTimestamp),
      ("trusting_period", word state.trustingPeriod),
      ("max_clock_drift", word state.maxClockDrift),
      ("frozen_height", option height state.frozenHeight)]

def consensusState (state : ConsensusState) : String :=
  record "ConsensusState"
    [("timestamp", word state.timestamp), ("state_root", hash state.stateRoot),
      ("epoch_id", hash state.epochId), ("next_epoch_id", hash state.nextEpochId),
      ("next_bp_hash", hash state.nextRosterHash), ("block_hash", hash state.blockHash)]

def publicKey (key : PublicKey) : String :=
  record "PublicKey" [("key_type", scheme key.scheme), ("data", Text.quotedBytes key.data)]

def signature (signature : Signature) : String :=
  record "Signature"
    [("key_type", scheme signature.scheme), ("data", Text.quotedBytes signature.data)]

def validator (validator : Validator) : String :=
  record "ValidatorStake"
    [("account_id", Text.quoted validator.account), ("public_key", publicKey validator.key),
      ("stake", toString validator.stake.units)]

def roster (roster : Roster) : String :=
  record "ValidatorSet" [("validators", tuple (roster.validators.map validator))]

def innerHeader (inner : InnerHeader) : String :=
  record "BlockHeaderInnerLite"
    [("height", word inner.height), ("epoch_id", hash inner.epochId),
      ("next_epoch_id", hash inner.nextEpochId), ("prev_state_root", hash inner.stateRoot),
      ("outcome_root", hash inner.outcomeRoot), ("timestamp", word inner.timestamp),
      ("next_bp_hash", hash inner.nextRosterHash), ("block_merkle_root", hash inner.blockRoot)]

def header (header : Header) : String :=
  record "Header"
    [("prev_block_hash", hash header.previousHash),
      ("next_block_inner_hash", hash header.nextInnerHash),
      ("inner_lite", innerHeader header.inner), ("inner_rest_hash", hash header.restHash),
      ("validators", option (fun validators => tuple (validators.map validator)) header.validators),
      ("approvals_after_next", tuple (header.approvals.map (option signature)))]

def misbehaviour (misbehaviour : Misbehaviour) : String :=
  record "Misbehaviour"
    [("client_id", Text.quoted misbehaviour.clientId),
      ("trusted_height", height misbehaviour.trustedHeight),
      ("header_1", header misbehaviour.first), ("header_2", header misbehaviour.second)]

def proofStep (step : ProofStep) : String :=
  record "ProofStep" [("hash", hash step.sibling), ("position", side step.side)]

def proof (proof : Proof) : String :=
  record "Proof"
    [("leaf", Text.quotedBytes proof.leaf), ("steps", tuple (proof.steps.map proofStep))]

end Shown

namespace Value

/-- The full description of a value. -/
def shown : Value → String
  | ⟨.height, value⟩ => Shown.height value
  | ⟨.clientState, value⟩ => Shown.clientState value
  | ⟨.consensusState, value⟩ => Shown.consensusState value
  | ⟨.header, value⟩ => Shown.header value
  | ⟨.misbehaviour, value⟩ => Shown.misbehaviour value
  | ⟨.proof, value⟩ => Shown.proof value
  | ⟨.innerHeader, value⟩ => Shown.innerHeader value
  | ⟨.proofStep, value⟩ => Shown.proofStep value
  | ⟨.publicKey, value⟩ => Shown.publicKey value
  | ⟨.signature, value⟩ => Shown.signature value
  | ⟨.validator, value⟩ => Shown.validator value
  | ⟨.roster, value⟩ => Shown.roster value

/-- The text form of a height or a key, where the value is one. -/
def text? : Value → Option String
  | ⟨.height, value⟩ => some (Height.text value)
  | ⟨.publicKey, value⟩ => some (PublicKey.text value)
  | _ => none

end Value

end Finality
