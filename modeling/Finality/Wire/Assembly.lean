import Finality.Chain.Build
import Finality.Wire.Form

/-!
# Values put together from parts

A host names a kind and gives the parts of a value in the order of its fields. Each kind checks
its own numbers and hashes when it is put together, and looks at the parts that are values
themselves only when it is written: whatever has a wire form can stand there. So what is
put together is an `Assembly`, which has both wire forms and a view but need not be a value
of its kind. A value is an assembly too.
-/

namespace Finality

/-- Parts that have been put together and written. -/
structure Assembly where
  kind : Kind
  compact : Bytes
  fields : Datum
  text? : Option String

namespace Assembly

open Build (Result hash value optionalValue items)

/-- A value as an assembly. -/
def ofValue (value : Value) : Assembly := ⟨value.kind, value.compact, value.fields, value.text?⟩

/-- The tagged form, when the kind has a type URL. -/
def tagged? (assembly : Assembly) : Option Bytes :=
  assembly.kind.url?.map fun url => Cbor.write (Tagged.envelope url assembly.fields)

/-- The view of an assembly: the view of its fields. -/
def view (assembly : Assembly) : Datum := assembly.fields.viewWith Datum.object

/-- A sequence of parts in compact form. -/
def sequence (parts : List Bytes) : Bytes := leBytes 4 parts.length ++ parts.flatten

/-- An optional part in compact form. -/
def optional : Option Bytes → Bytes
  | none => leBytes 1 0
  | some part => leBytes 1 1 ++ part

/-- A client state, whose heights may be values of any kind. -/
def clientState (latest timestamp period drift frozen : Datum) : Result Assembly := do
  let timestamp ← Build.word "latest_timestamp" timestamp
  let period ← Build.word "trusting_period" period
  let drift ← Build.word "max_clock_drift" drift
  if period = 0 then Build.invalid .noTrustingPeriod
  let latest ← value latest
  let frozen ← optionalValue frozen
  return {
    kind := .clientState
    compact := latest.compact ++ Layout.word.write timestamp ++ Layout.word.write period
      ++ Layout.word.write drift ++ optional (frozen.map Value.compact)
    fields := .record
      [("latest_height", latest.fields), ("latest_timestamp", Fielded.ofWord timestamp),
        ("trusting_period", Fielded.ofWord period), ("max_clock_drift", Fielded.ofWord drift),
        ("frozen_height", Fielded.ofOption Value.fields frozen)]
    text? := none }

/-- A header, whose inner part, validators and approvals may be values of any kind. -/
def header (previousHash nextInnerHash inner restHash validators approvals : Datum) :
    Result Assembly := do
  let previousHash ← hash "prev_block_hash" previousHash
  let nextInnerHash ← hash "next_block_inner_hash" nextInnerHash
  let restHash ← hash "inner_rest_hash" restHash
  let validators ←
    match validators with
    | .null => pure none
    | validators => (items validators).map some
  let approvals ← items approvals
  let inner ← value inner
  let validators ← validators.mapM fun parts => parts.mapM value
  let approvals ← approvals.mapM optionalValue
  return {
    kind := .header
    compact := previousHash.bytes ++ nextInnerHash.bytes ++ inner.compact ++ restHash.bytes
      ++ optional (validators.map fun parts => sequence (parts.map Value.compact))
      ++ sequence (approvals.map fun part => optional (part.map Value.compact))
    fields := .record
      [("prev_block_hash", Fielded.ofHash previousHash),
        ("next_block_inner_hash", Fielded.ofHash nextInnerHash), ("inner_lite", inner.fields),
        ("inner_rest_hash", Fielded.ofHash restHash),
        ("validators", Fielded.ofOption (fun parts => .list (parts.map Value.fields)) validators),
        ("approvals_after_next", .list (approvals.map (Fielded.ofOption Value.fields)))]
    text? := none }

/-- Misbehaviour, whose height and headers may be values of any kind. -/
def misbehaviour (clientId trustedHeight first second : Datum) : Result Assembly := do
  let clientId ← Build.text clientId
  let trustedHeight ← value trustedHeight
  let first ← value first
  let second ← value second
  return {
    kind := .misbehaviour
    compact := Layout.text.write clientId ++ trustedHeight.compact ++ first.compact
      ++ second.compact
    fields := .record
      [("client_id", .text clientId), ("trusted_height", trustedHeight.fields),
        ("header_1", first.fields), ("header_2", second.fields)]
    text? := none }

/-- A proof, whose steps may be values of any kind. -/
def proof (leaf steps : Datum) : Result Assembly := do
  let steps ← items steps
  let leaf ←
    match leaf with
    | .bytes leaf => pure leaf
    | _ => .error .wrongType
  let steps ← steps.mapM value
  return {
    kind := .proof
    compact := Layout.bytes.write leaf ++ sequence (steps.map Value.compact)
    fields := .record [("leaf", .bytes leaf), ("steps", .list (steps.map Value.fields))]
    text? := none }

/-- A validator, whose key may be a value of any kind. -/
def validator (account key stake : Datum) : Result Assembly := do
  if account.isVoid then Build.invalid .noAccount
  let units ←
    match stake with
    | .int value =>
      if 0 ≤ value ∧ value < capacity 16 then pure value.toNat
      else Build.invalid (.notStake stake)
    | _ => Build.invalid (.notStake stake)
  let account ← Build.text account
  let key ← value key
  return {
    kind := .validator
    compact := leBytes 1 0 ++ Layout.text.write account ++ key.compact ++ leBytes 16 units
    fields := .record
      [("account_id", .text account), ("public_key", key.fields), ("stake", .nat units)]
    text? := none }

/-- The assembly of a kind made of parts in the order of its fields. -/
def ofParts (kind : Kind) (parts : List Datum) : Result Assembly :=
  match kind, parts with
  | .height, [revision, block] =>
    (Build.height revision block).map fun content => ofValue ⟨.height, content⟩
  | .clientState, [latest, timestamp, period, drift] =>
    clientState latest timestamp period drift .null
  | .clientState, [latest, timestamp, period, drift, frozen] =>
    clientState latest timestamp period drift frozen
  | .consensusState, [timestamp, stateRoot, epochId, nextEpochId, nextRosterHash, blockHash] =>
    (Build.consensusState timestamp stateRoot epochId nextEpochId nextRosterHash blockHash).map
      fun content => ofValue ⟨.consensusState, content⟩
  | .innerHeader,
    [height, epochId, nextEpochId, stateRoot, outcomeRoot, timestamp, nextRosterHash,
      blockRoot] =>
    (Build.innerHeader height epochId nextEpochId stateRoot outcomeRoot timestamp nextRosterHash
      blockRoot).map fun content => ofValue ⟨.innerHeader, content⟩
  | .header, [previousHash, nextInnerHash, inner, restHash, validators, approvals] =>
    header previousHash nextInnerHash inner restHash validators approvals
  | .misbehaviour, [clientId, trustedHeight, first, second] =>
    misbehaviour clientId trustedHeight first second
  | .proofStep, [sibling, position] =>
    (Build.proofStep sibling position).map fun content => ofValue ⟨.proofStep, content⟩
  | .proof, [leaf, steps] => proof leaf steps
  | .publicKey, [tag, data] =>
    (Build.publicKey tag data).map fun content => ofValue ⟨.publicKey, content⟩
  | .signature, [tag, data] =>
    (Build.signature tag data).map fun content => ofValue ⟨.signature, content⟩
  | .validator, [account, key, stake] => validator account key stake
  | .roster, [validators] =>
    (Build.roster validators).map fun content => ofValue ⟨.roster, content⟩
  | _, _ => .error .wrongType

end Assembly

end Finality
