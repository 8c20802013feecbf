import Finality.Bytes.Endian
import Finality.Digest.Tree
import Finality.Signing
import Finality.Wire.Compact

/-!
# Approvals

Block producers approve a block by signing a message that ends in the height two above
it. The message holds the hash of the block after, which is put together from the fields
of the header itself, so a signature fixes all of them.
-/

namespace Finality

/-- Why a signature does not stand for a message. -/
inductive SignatureFault where
  /-- The key is of another scheme. -/
  | otherScheme (signature key : Scheme)
  /-- The key is no point of the curve of its scheme. -/
  | malformedKey (scheme : Scheme)
  /-- The recovery byte is out of range. -/
  | recoveryByte (value : UInt8)
  /-- The signature does not verify. -/
  | mismatch (scheme : Scheme)
deriving DecidableEq

namespace SignatureFault

/-- The message of a fault. -/
def message : SignatureFault → String
  | otherScheme _ _ => "signature scheme does not match the validator key"
  | malformedKey scheme => "malformed " ++ scheme.name ++ " public key"
  | recoveryByte _ => "malformed secp256k1 recovery id"
  | mismatch scheme => scheme.name ++ " signature does not verify"

/-- The particulars of a fault. -/
def data : SignatureFault → Fields
  | otherScheme signature key =>
    [("signature_scheme", .text signature.name), ("key_scheme", .text key.name)]
  | recoveryByte value => [("v", .nat value.toNat)]
  | _ => []

end SignatureFault

/-- The largest recovery byte of a secp256k1 signature. The byte is carried along, but does not
take part in the verification. -/
def maxRecoveryByte : UInt8 := 3

/-- The byte behind the two numbers of a secp256k1 signature. -/
def recoveryByte (signature : Bytes) : UInt8 := signature.getD 64 0

section

variable [Signing]

/-- Check an Ed25519 signature. -/
def checkEdwards (key message signature : Bytes) : Except SignatureFault Unit :=
  if !Signing.isKey .ed25519 key then .error (.malformedKey .ed25519)
  else if Signing.edwards key message signature then .ok ()
  else .error (.mismatch .ed25519)

/-- Check a secp256k1 signature: two numbers of 32 bytes and a recovery byte. -/
def checkKoblitz (key message signature : Bytes) : Except SignatureFault Unit :=
  if !Signing.isKey .secp256k1 key then .error (.malformedKey .secp256k1)
  else if maxRecoveryByte < recoveryByte signature then
    .error (.recoveryByte (recoveryByte signature))
  else if Signing.koblitz key message (beValue (signature.take 32))
      (beValue ((signature.drop 32).take 32)) then .ok ()
  else .error (.mismatch .secp256k1)

/-- Check that a signature stands for a message under a key. -/
def Signature.check (signature : Signature) (message : Bytes) (key : PublicKey) :
    Except SignatureFault Unit :=
  if signature.scheme ≠ key.scheme then .error (.otherScheme signature.scheme key.scheme)
  else
    match key.scheme with
    | .ed25519 => checkEdwards key.data message signature.data
    | .secp256k1 => checkKoblitz key.data message signature.data

end

/-- The commitment to a list of validators: the digest of its compact form. -/
def commitment (validators : List Validator) : Hash :=
  sha256 (Layout.validators.write validators)

/-- The commitment to a roster. -/
def Roster.commitment (roster : Roster) : Hash := Finality.commitment roster.validators

/-- The hash of the fields that light clients read. -/
def InnerHeader.hash (inner : InnerHeader) : Hash :=
  sha256 (Compact.encode .innerHeader inner)

namespace Header

/-- The hash of the block. -/
def blockHash (header : Header) : Hash :=
  combine (combine header.inner.hash.bytes header.restHash.bytes).bytes header.previousHash.bytes

/-- The hash of the block after. -/
def nextBlockHash (header : Header) : Hash :=
  combine header.nextInnerHash.bytes header.blockHash.bytes

/-- The height that approvals of the header end in, when it fits 64 bits. -/
def approvalHeight? (header : Header) : Option Nat :=
  let height := header.inner.height.toNat + 2
  if height < capacity 8 then some height else none

/-- The message that approvals of the header sign. A header at one of the two greatest heights
has none. -/
def approvalMessage? (header : Header) : Option Bytes :=
  header.approvalHeight?.map fun height => 0 :: (header.nextBlockHash.bytes ++ leBytes 8 height)

/-- The trusted snapshot that the header leaves behind when it is accepted. -/
def consensusState (header : Header) : ConsensusState where
  timestamp := header.inner.timestamp
  stateRoot := header.inner.stateRoot
  epochId := header.inner.epochId
  nextEpochId := header.inner.nextEpochId
  nextRosterHash := header.inner.nextRosterHash
  blockHash := header.blockHash

/-- The roster made of the validators that the header carries. -/
def roster? (header : Header) : Option (Except Invalid Roster) :=
  header.validators.map Roster.ofValidators

end Header

end Finality
