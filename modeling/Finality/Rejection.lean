import Finality.Chain.Approval

/-!
# Rejections and failures

Every reason for which a header, a proof, misbehaviour or a call of a client is turned
down is a `Rejection`, and `Rejection.report` puts it into words. A call can also end in
a `Failure` that is no rejection of its arguments.
-/

namespace Finality

/-- What a limit is set on. -/
inductive Resource where
  | validators
  | proofDepth
deriving DecidableEq

/-- The name of a resource. -/
def Resource.name : Resource → String
  | validators => "validators"
  | proofDepth => "proof_depth"

/-- Which header of misbehaviour. -/
inductive Place where
  | first
  | second
deriving DecidableEq

/-- The name of a header of misbehaviour. -/
def Place.name : Place → String
  | first => "header_1"
  | second => "header_2"

/-- Why arguments are turned down. -/
inductive Rejection where
  /-- Bytes are no encoding. -/
  | decode (fault : DecodeFault)
  /-- A header is not above the trusted height. -/
  | heightNotAbove (trusted got : Height)
  /-- A proof is against a height that is not reached. -/
  | proofHeightAhead (latest got : Height)
  /-- There is no state at the height of a proof. -/
  | noProofState (height : Height)
  /-- A trusted height is not reached. -/
  | trustedHeightAhead (latest got : Height)
  /-- There is no state at a trusted height. -/
  | noTrustedState (height : Height)
  /-- There is no roster for the epoch of a trusted state. -/
  | noRoster (epoch : Hash)
  /-- A header is of an epoch that cannot follow. -/
  | foreignEpoch (trusted next got : Hash)
  /-- A header of a new epoch carries no validators. -/
  | noValidators (epoch : Hash)
  /-- The validators of a header are not those that were committed to. -/
  | wrongValidators (expected got : Hash)
  /-- An epoch has another roster already. -/
  | epochRebound (epoch : Bytes) (known got : Hash)
  /-- The validators of a header make no roster. -/
  | unusableValidators (reason : Invalid) (epoch : Hash)
  /-- A limit is passed. -/
  | limit (resource : Resource) (limit : Int) (got : Nat)
  /-- There are more approvals than validators. -/
  | tooManyApprovals (approvals validators : Nat)
  /-- A signature does not stand for its message; the place of its validator is given where it
  has one. -/
  | signature (fault : SignatureFault) (validator : Option (Nat × String))
  /-- The approvals carry too little stake. -/
  | insufficientStake (verified total : Nat) (height : Height)
  /-- A header is older than the trusted state. -/
  | timestampBefore (trusted got : UInt64)
  /-- A header is too far ahead of the trusted state. -/
  | timestampAfter (bound : Nat) (got : UInt64)
  /-- A client would start with two different times. -/
  | timestampsDiffer (client consensus : UInt64)
  /-- A client would start from an empty state root. -/
  | emptyStateRoot
  /-- A proof is for another key or claim. -/
  | leafMismatch (claim : Claim)
  /-- A proof leads to another root. -/
  | rootMismatch (claim : Claim) (expected : Bytes) (got : Hash)
  /-- A state is out of its trusting period. -/
  | expired (timestamp : UInt64) (now : Int) (trustingPeriod : UInt64)
  /-- The client is frozen. -/
  | frozen (height : Height)
  /-- A client would start frozen. -/
  | frozenAtStart (height : Height)
  /-- There is no such client. -/
  | noClient (client : String)
  /-- There is such a client already. -/
  | clientExists (client : String)
  /-- Misbehaviour is against another client. -/
  | otherClient (expected got : String)
  /-- The two headers of misbehaviour are the same. -/
  | identicalHeaders (height : Height)
  /-- A header of misbehaviour is itself rejected. -/
  | notFinal (place : Place) (rejection : Rejection)
  /-- Two headers at one height agree. -/
  | headersAgree (height : Height)
  /-- Two headers follow one another in time. -/
  | orderedInTime (low high : Height)
  /-- The store of a client does not take writes. -/
  | storeClosed (client : String)

namespace Rejection

/-- A hash as data. -/
def hashDatum (hash : Hash) : Datum := .bytes hash.bytes

/-- A height as data. -/
def heightDatum (height : Height) : Datum := .text height.text

/-- A word as data. -/
def wordDatum (word : UInt64) : Datum := .nat word.toNat

/-- The report of a rejection. -/
def report : Rejection → Report
  | decode fault => fault.report
  | heightNotAbove trusted got =>
    .of .height "header height must exceed the trusted height"
      [("trusted", heightDatum trusted), ("got", heightDatum got)]
  | proofHeightAhead latest got =>
    .of .height "proof height is above the latest trusted height"
      [("latest", heightDatum latest), ("got", heightDatum got)]
  | noProofState height =>
    .of .height "no consensus state at proof height" [("height", heightDatum height)]
  | trustedHeightAhead latest got =>
    .of .height "trusted height is above the latest height"
      [("latest", heightDatum latest), ("got", heightDatum got)]
  | noTrustedState height =>
    .of .height "no consensus state at trusted height" [("height", heightDatum height)]
  | noRoster epoch =>
    .of .epochMismatch "no validator set registered for the trusted epoch"
      [("epoch_id", hashDatum epoch)]
  | foreignEpoch trusted next got =>
    .of .epochMismatch "header epoch is neither the trusted epoch nor the next one"
      [("trusted_epoch", hashDatum trusted), ("next_epoch", hashDatum next),
        ("got", hashDatum got)]
  | noValidators epoch =>
    .of .epochMismatch "epoch rollover header carries no validator list"
      [("epoch_id", hashDatum epoch)]
  | wrongValidators expected got =>
    .of .epochMismatch "validator list does not match the trusted next-epoch commitment"
      [("expected", hashDatum expected), ("got", hashDatum got)]
  | epochRebound epoch known got =>
    .of .epochMismatch "epoch already bound to a different validator set"
      [("epoch_id", .bytes epoch), ("known", hashDatum known), ("got", hashDatum got)]
  | unusableValidators reason epoch =>
    .of .invalidHeader ("unusable validator list: " ++ reason.message)
      [("epoch_id", hashDatum epoch)]
  | limit resource bound got => .ofLimit (.text resource.name) (.int bound) (.nat got)
  | tooManyApprovals approvals validators =>
    .of .invalidSignature "more approvals than validators"
      [("approvals", .nat approvals), ("validators", .nat validators)]
  | signature fault validator =>
    let report := Report.of .invalidSignature fault.message fault.data
    match validator with
    | none => report
    | some (index, account) =>
      report.withContext [("validator_index", .nat index), ("account_id", .text account)]
  | insufficientStake verified total height =>
    .ofStakes (.nat verified) (.nat total) [("height", heightDatum height)]
  | timestampBefore trusted got =>
    .of .invalidTimestamp "header timestamp precedes the trusted timestamp"
      [("trusted", wordDatum trusted), ("got", wordDatum got)]
  | timestampAfter bound got =>
    .of .invalidTimestamp "header timestamp exceeds the clock drift bound"
      [("bound", .nat bound), ("got", wordDatum got)]
  | timestampsDiffer client consensus =>
    .of .invalidTimestamp "client state timestamp disagrees with the consensus state"
      [("client_state", wordDatum client), ("consensus_state", wordDatum consensus)]
  | emptyStateRoot => .of .invalidHeader "empty state root" []
  | leafMismatch claim =>
    .of .proofMismatch "proof leaf does not encode the claimed key and value"
      [("claim", .text claim.name)]
  | rootMismatch claim expected got =>
    .of .proofMismatch Reason.proofMismatch.defaultMessage
      [("claim", .text claim.name), ("expected", .bytes expected), ("got", hashDatum got)]
  | expired timestamp now period =>
    .of .expiredConsensusState Reason.expiredConsensusState.defaultMessage
      [("timestamp", wordDatum timestamp), ("now", .int now),
        ("trusting_period", wordDatum period)]
  | frozen height => .ofFrozen (heightDatum height) []
  | frozenAtStart height =>
    .ofFrozen (heightDatum height)
      [("reason", .text "frozen height not allowed at initialisation")]
  | noClient client =>
    .of .clientNotFound Reason.clientNotFound.defaultMessage [("client_id", .text client)]
  | clientExists client =>
    .of .clientAlreadyExists Reason.clientAlreadyExists.defaultMessage
      [("client_id", .text client)]
  | otherClient expected got =>
    .of .misbehaviourNotProven "misbehaviour targets another client"
      [("expected", .text expected), ("got", .text got)]
  | identicalHeaders height =>
    .of .misbehaviourNotProven "headers are identical" [("height", heightDatum height)]
  | notFinal place rejection =>
    let inner := rejection.report
    (Report.of .misbehaviourNotProven (place.name ++ " is not a valid finalization")
      [("reason", .text inner.code), ("detail", inner.message)]).withCause inner.asCause
  | headersAgree height =>
    .of .misbehaviourNotProven "headers agree on state root and next-epoch commitment"
      [("height", heightDatum height)]
  | orderedInTime low high =>
    .of .misbehaviourNotProven "headers at different heights are consistently ordered in time"
      [("low", heightDatum low), ("high", heightDatum high)]
  | storeClosed client =>
    .of .store "Cannot operate on a closed database." [("client_id", .text client)]

end Rejection

/-- How a call can end without a result. -/
inductive Failure where
  /-- The arguments are turned down. -/
  | rejected (rejection : Rejection)
  /-- A header is so high that nobody can sign two heights above it. -/
  | heightOverflow
  /-- The store was closed before reading. -/
  | storeClosed
  /-- A record is kept under a key that holds no height. -/
  | heightKey
  /-- Parts make no value. -/
  | invalid (reason : Invalid)
  /-- A client has no id. -/
  | clientIdEmpty
  /-- The id of a client is not of 1 to 255 bytes. -/
  | clientIdSize

namespace Failure

/-- The text of the fault that a number does not fit. -/
def overflowMessage : String := "int too big to convert"

/-- The text of a failure that is no rejection, where it has one. -/
def message? : Failure → Option String
  | heightOverflow => some overflowMessage
  | invalid reason => some reason.message
  | clientIdEmpty => some "client_id must be non-empty"
  | clientIdSize => some "client id must be 1..255 bytes"
  | _ => none

end Failure

/-- The outcome of a call. -/
abbrev Outcome (α : Type) := Except Failure α

/-- Turn arguments down. -/
def reject {α : Type} (rejection : Rejection) : Outcome α := .error (.rejected rejection)

/-- A result, or the end of the call by a rejection. -/
def orReject {α : Type} (result : Except Rejection α) : Outcome α := result.mapError .rejected

end Finality
