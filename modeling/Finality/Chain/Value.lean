import Finality.Chain.Header
import Finality.Chain.Proof

/-!
# Values

The twelve kinds of value that have a wire form. A `Value` is a value of any of them,
together with its kind. Six kinds are messages in their own right and have a type URL.
-/

namespace Finality

/-- The kinds of value that have a wire form. -/
inductive Kind where
  | height
  | clientState
  | consensusState
  | header
  | misbehaviour
  | proof
  | innerHeader
  | proofStep
  | publicKey
  | signature
  | validator
  | roster
deriving DecidableEq, Inhabited

namespace Kind

/-- All kinds. -/
def all : List Kind :=
  [height, clientState, consensusState, header, misbehaviour, proof, innerHeader, proofStep,
    publicKey, signature, validator, roster]

/-- The values of a kind. -/
abbrev Carrier : Kind → Type
  | height => Height
  | clientState => ClientState
  | consensusState => ConsensusState
  | header => Header
  | misbehaviour => Misbehaviour
  | proof => Proof
  | innerHeader => InnerHeader
  | proofStep => ProofStep
  | publicKey => PublicKey
  | signature => Signature
  | validator => Validator
  | roster => Roster

instance : (kind : Kind) → DecidableEq kind.Carrier
  | height => inferInstanceAs (DecidableEq Height)
  | clientState => inferInstanceAs (DecidableEq ClientState)
  | consensusState => inferInstanceAs (DecidableEq ConsensusState)
  | header => inferInstanceAs (DecidableEq Header)
  | misbehaviour => inferInstanceAs (DecidableEq Misbehaviour)
  | proof => inferInstanceAs (DecidableEq Proof)
  | innerHeader => inferInstanceAs (DecidableEq InnerHeader)
  | proofStep => inferInstanceAs (DecidableEq ProofStep)
  | publicKey => inferInstanceAs (DecidableEq PublicKey)
  | signature => inferInstanceAs (DecidableEq Signature)
  | validator => inferInstanceAs (DecidableEq Validator)
  | roster => inferInstanceAs (DecidableEq Roster)

/-- The published name of a kind. -/
def name : Kind → String
  | height => "Height"
  | clientState => "ClientState"
  | consensusState => "ConsensusState"
  | header => "Header"
  | misbehaviour => "Misbehaviour"
  | proof => "Proof"
  | innerHeader => "BlockHeaderInnerLite"
  | proofStep => "ProofStep"
  | publicKey => "PublicKey"
  | signature => "Signature"
  | validator => "ValidatorStake"
  | roster => "ValidatorSet"

/-- The short name of a kind, as it is typed on a command line. -/
def label : Kind → String
  | height => "height"
  | clientState => "client-state"
  | consensusState => "consensus-state"
  | header => "header"
  | misbehaviour => "misbehaviour"
  | proof => "proof"
  | innerHeader => "inner-lite"
  | proofStep => "proof-step"
  | publicKey => "public-key"
  | signature => "signature"
  | validator => "validator"
  | roster => "validator-set"

/-- The kind with a short name. -/
def ofLabel? (label : String) : Option Kind := all.find? fun kind => kind.label == label

/-- What every type URL starts with. -/
def urlStem : String := "/lightclients.near.v1."

/-- Whether values of the kind are messages in their own right. -/
def isMessage : Kind → Bool
  | height | clientState | consensusState | header | misbehaviour | proof => true
  | _ => false

/-- The type URL of a kind of message. -/
def url? (kind : Kind) : Option String :=
  if kind.isMessage then some (urlStem ++ kind.name) else none

/-- The kind of message with a type URL. -/
def ofUrl? (url : String) : Option Kind := all.find? fun kind => kind.url? == some url

end Kind

/-- A value of any kind. -/
structure Value where
  kind : Kind
  content : kind.Carrier
deriving DecidableEq

end Finality
