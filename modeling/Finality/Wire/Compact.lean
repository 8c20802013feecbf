import Finality.Wire.Layout

/-!
# The compact form

The layout of every kind of value. The compact form has no tags for types, so the reader
has to know the kind of value that it expects; it takes the whole input or none of it.
Storage and commitments use this form. A value whose texts, byte strings or sequences are
too long for it has no compact form.
-/

namespace Finality

namespace Layout

/-- Parts that make a value, or a reason why they do not. -/
def checked {α : Type} (result : Except Invalid α) : Except FormFault α :=
  result.mapError .invalid

/-- The tag of a scheme. -/
def scheme : Layout Scheme :=
  (uint 1).via Scheme.tag fun tag =>
    match Scheme.ofTag? tag with
    | some scheme => .ok scheme
    | none => .error (.decode (.scheme tag))

/-- The tag of a side. -/
def side : Layout Side :=
  (uint 1).via Side.tag fun tag =>
    match Side.ofTag? tag with
    | some side => .ok side
    | none => .error (.decode (.side tag))

/-- The version of a written validator, of which there is one. -/
def validatorVersion : Layout Unit :=
  (uint 1).via (fun _ => 0) fun version =>
    if version = 0 then .ok () else .error (.decode (.validatorVersion version))

def publicKey : Layout PublicKey :=
  (dependent scheme fun scheme => sized scheme.keySize).via
    (fun key => ⟨key.scheme, key.data, key.size_eq⟩)
    (fun ⟨scheme, data⟩ => .ok ⟨scheme, data.val, data.property⟩)

def signature : Layout Signature :=
  (dependent scheme fun scheme => sized scheme.signatureSize).via
    (fun signature => ⟨signature.scheme, signature.data, signature.size_eq⟩)
    (fun ⟨scheme, data⟩ => .ok ⟨scheme, data.val, data.property⟩)

def height : Layout Height :=
  (pair word word).via (fun height => (height.revision, height.block))
    fun (revision, block) => .ok ⟨revision, block⟩

def validator : Layout Validator :=
  (pair validatorVersion (pair text (pair publicKey (uint 16)))).via
    (fun validator => ((), validator.account, validator.key, validator.stake.units))
    fun (_, account, key, stake) => checked (Validator.ofFields account key stake)

def validators : Layout (List Validator) := list validator

def roster : Layout Roster :=
  validators.via Roster.validators fun entries => checked (Roster.ofValidators entries)

def clientState : Layout ClientState :=
  (pair height (pair word (pair word (pair word (option height))))).via
    (fun state => (state.latestHeight, state.latestTimestamp, state.trustingPeriod,
      state.maxClockDrift, state.frozenHeight))
    fun (latest, timestamp, period, drift, frozen) =>
      checked (ClientState.ofFields latest timestamp period drift frozen)

def consensusState : Layout ConsensusState :=
  (pair word (pair hash (pair hash (pair hash (pair hash hash))))).via
    (fun state => (state.timestamp, state.stateRoot, state.epochId, state.nextEpochId,
      state.nextRosterHash, state.blockHash))
    fun (timestamp, stateRoot, epochId, nextEpochId, nextRosterHash, blockHash) =>
      .ok ⟨timestamp, stateRoot, epochId, nextEpochId, nextRosterHash, blockHash⟩

def innerHeader : Layout InnerHeader :=
  (pair word (pair hash (pair hash (pair hash (pair hash (pair word (pair hash hash))))))).via
    (fun inner => (inner.height, inner.epochId, inner.nextEpochId, inner.stateRoot,
      inner.outcomeRoot, inner.timestamp, inner.nextRosterHash, inner.blockRoot))
    fun (height, epochId, nextEpochId, stateRoot, outcomeRoot, timestamp, nextRosterHash,
        blockRoot) =>
      .ok ⟨height, epochId, nextEpochId, stateRoot, outcomeRoot, timestamp, nextRosterHash,
        blockRoot⟩

def header : Layout Header :=
  (pair hash (pair hash (pair innerHeader (pair hash (pair (option validators)
    (list (option signature))))))).via
    (fun header => (header.previousHash, header.nextInnerHash, header.inner, header.restHash,
      header.validators, header.approvals))
    fun (previousHash, nextInnerHash, inner, restHash, validators, approvals) =>
      .ok ⟨previousHash, nextInnerHash, inner, restHash, validators, approvals⟩

def misbehaviour : Layout Misbehaviour :=
  (pair text (pair height (pair header header))).via
    (fun misbehaviour => (misbehaviour.clientId, misbehaviour.trustedHeight,
      misbehaviour.first, misbehaviour.second))
    fun (clientId, trustedHeight, first, second) => .ok ⟨clientId, trustedHeight, first, second⟩

def proofStep : Layout ProofStep :=
  (pair hash side).via (fun step => (step.sibling, step.side))
    fun (sibling, side) => .ok ⟨sibling, side⟩

def proof : Layout Proof :=
  (pair bytes (list proofStep)).via (fun proof => (proof.leaf, proof.steps))
    fun (leaf, steps) => .ok ⟨leaf, steps⟩

/-- The layout of every kind of value. -/
def ofKind : (kind : Kind) → Layout kind.Carrier
  | .height => height
  | .clientState => clientState
  | .consensusState => consensusState
  | .header => header
  | .misbehaviour => misbehaviour
  | .proof => proof
  | .innerHeader => innerHeader
  | .proofStep => proofStep
  | .publicKey => publicKey
  | .signature => signature
  | .validator => validator
  | .roster => roster

end Layout

/-- The lengths that are written with validators. -/
def validatorLengths (validators : List Validator) : List Nat :=
  validators.length :: validators.map fun validator => (utf8 validator.account).length

/-- The lengths that are written with a header. -/
def Header.lengths (header : Header) : List Nat :=
  header.validators.toList.flatMap validatorLengths ++ [header.approvals.length]

namespace Compact

/-- The lengths of the texts, byte strings and sequences in a value, in the order in which they
are written. -/
def lengths : (kind : Kind) → kind.Carrier → List Nat
  | .header, header => Header.lengths header
  | .misbehaviour, misbehaviour =>
    (utf8 (Misbehaviour.clientId misbehaviour)).length
      :: ((Misbehaviour.first misbehaviour).lengths ++ (Misbehaviour.second misbehaviour).lengths)
  | .proof, proof => [(Proof.leaf proof).length, (Proof.steps proof).length]
  | .validator, validator => [(utf8 (Validator.account validator)).length]
  | .roster, roster => validatorLengths (Roster.validators roster)
  | _, _ => []

/-- A value in compact form. Lengths are written in four bytes, whether they fit or not. -/
def encode (kind : Kind) (value : kind.Carrier) : Bytes := (Layout.ofKind kind).write value

/-- A value in compact form, unless one of its lengths does not fit. -/
def encodeChecked (kind : Kind) (value : kind.Carrier) : Except Invalid Bytes :=
  match (lengths kind value).find? fun length => capacity 4 ≤ length with
  | some length => .error (.oversize length)
  | none => .ok (encode kind value)

/-- The value of a kind that a byte string is the compact form of. -/
def decode (kind : Kind) (input : Bytes) : Except DecodeFault kind.Carrier :=
  match (Layout.ofKind kind).read.runOn input with
  | .ok value => .ok value
  | .error (.decode fault) => .error fault
  | .error (.invalid reason) => .error (.invalidCompact kind reason)

end Compact

end Finality
