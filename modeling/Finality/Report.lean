import Finality.Datum

/-!
# Error reports

An error that leaves the library is a `Report`: the reason it belongs to, a stable code, a
short message and data by name. Byte strings among the data are shown in hexadecimal and
heights by their text, so that hosts can pass the data on as JSON. A report can be
extended with more data and can carry the error that caused it.
-/

namespace Finality

/-- The reasons under which errors are reported. -/
inductive Reason where
  | general
  | internal
  | config
  | decode
  | height
  | epochMismatch
  | insufficientStake
  | invalidSignature
  | invalidTimestamp
  | invalidHeader
  | limitExceeded
  | proofMismatch
  | expiredConsensusState
  | clientFrozen
  | clientNotFound
  | clientAlreadyExists
  | misbehaviourNotProven
  | store
deriving DecidableEq, Inhabited

namespace Reason

/-- All reasons. -/
def all : List Reason :=
  [general, internal, config, decode, height, epochMismatch, insufficientStake,
    invalidSignature, invalidTimestamp, invalidHeader, limitExceeded, proofMismatch,
    expiredConsensusState, clientFrozen, clientNotFound, clientAlreadyExists,
    misbehaviourNotProven, store]

/-- The published name of a reason. -/
def name : Reason → String
  | general => "LightClientError"
  | internal => "InternalError"
  | config => "ConfigError"
  | decode => "DecodeError"
  | height => "HeightError"
  | epochMismatch => "EpochMismatch"
  | insufficientStake => "InsufficientStake"
  | invalidSignature => "InvalidSignature"
  | invalidTimestamp => "InvalidTimestamp"
  | invalidHeader => "InvalidHeader"
  | limitExceeded => "LimitExceeded"
  | proofMismatch => "ProofMismatch"
  | expiredConsensusState => "ExpiredConsensusState"
  | clientFrozen => "ClientFrozen"
  | clientNotFound => "ClientNotFound"
  | clientAlreadyExists => "ClientAlreadyExists"
  | misbehaviourNotProven => "MisbehaviourNotProven"
  | store => "StoreError"

/-- The code of a reason. Reports under no particular reason bring their own. -/
def code : Reason → String
  | general | internal => "LC/INTERNAL"
  | config => "LC/CONFIG"
  | decode => "LC/DECODE"
  | height => "LC/HEIGHT"
  | epochMismatch => "LC/EPOCH_MISMATCH"
  | insufficientStake => "LC/INSUFFICIENT_STAKE"
  | invalidSignature => "LC/INVALID_SIGNATURE"
  | invalidTimestamp => "LC/INVALID_TIMESTAMP"
  | invalidHeader => "LC/INVALID_HEADER"
  | limitExceeded => "LC/LIMIT_EXCEEDED"
  | proofMismatch => "LC/PROOF_MISMATCH"
  | expiredConsensusState => "LC/EXPIRED_CONSENSUS_STATE"
  | clientFrozen => "LC/CLIENT_FROZEN"
  | clientNotFound => "LC/CLIENT_NOT_FOUND"
  | clientAlreadyExists => "LC/CLIENT_EXISTS"
  | misbehaviourNotProven => "LC/MISBEHAVIOUR_NOT_PROVEN"
  | store => "LC/STORE"

/-- The message of a report that brings none. -/
def defaultMessage : Reason → String
  | general | internal => "internal error"
  | config => "invalid configuration"
  | decode => "malformed encoding"
  | height => "height out of range"
  | epochMismatch => "epoch mismatch"
  | insufficientStake => "verified stake is not a strict two-thirds supermajority"
  | invalidSignature => "invalid signature"
  | invalidTimestamp => "invalid timestamp"
  | invalidHeader => "invalid header"
  | limitExceeded => "limit exceeded"
  | proofMismatch => "proof does not match the committed root"
  | expiredConsensusState => "consensus state is outside the trusting period"
  | clientFrozen => "client is frozen"
  | clientNotFound => "client is not initialised"
  | clientAlreadyExists => "client is already initialised"
  | misbehaviourNotProven => "headers do not constitute misbehaviour"
  | store => "store failure"

/-- The reason with a published name. -/
def ofName? (name : String) : Option Reason := all.find? fun reason => reason.name = name

end Reason

/-- Data by name. Every name occurs once. -/
abbrev Fields := List (String × Datum)

namespace Fields

/-- Set a field. A known name keeps its place. -/
def insert (name : String) (value : Datum) : Fields → Fields
  | [] => [(name, value)]
  | (known, old) :: fields =>
    if known = name then (known, value) :: fields
    else (known, old) :: insert name value fields

/-- Fields extended by others, which win. -/
def merge (fields others : Fields) : Fields :=
  others.foldl (fun merged (name, value) => insert name value merged) fields

/-- The fields of a map, named by its keys as text. -/
def ofEntries (entries : List (Datum × Datum)) : Fields :=
  entries.foldl (fun fields (key, value) => insert key.display value fields) []

/-- Fields without one of them. -/
def erase (fields : Fields) (name : String) : Fields := fields.filter fun field => field.1 ≠ name

/-- The value of a field. -/
def get? (fields : Fields) (name : String) : Option Datum :=
  (fields.find? fun field => field.1 = name).map (·.2)

end Fields

/-- Why an error came about: the name of its type and its text. -/
structure Cause where
  type : String
  message : String

/-- An error as it is reported. -/
structure Report where
  /-- The reason that the error belongs to. -/
  reason : Reason
  /-- The stable code of the error. -/
  code : String
  /-- What went wrong: a text, unless a host brings something else. -/
  message : Datum
  /-- The particulars. -/
  data : Fields
  /-- Whether trying again can help: a truth value, unless a host brings something else. -/
  retryable : Datum
  /-- The error behind this one. -/
  cause : Option Cause
  /-- The verified and the total stake, where stake was missing. -/
  stakes : Option (Datum × Datum)

namespace Report

/-- A datum as it stands in a report. Lists and maps stay as they are. -/
def published : Datum → Datum
  | .bytes value => .text (toHex0x value)
  | datum =>
    if datum.isScalar || datum matches .list _ | .map _ then datum else .text datum.display

/-- Fields as they stand in a report. -/
def publishedFields (fields : Fields) : Fields :=
  fields.map fun (name, value) => (name, published value)

/-- A report under a reason, with a message of any type. -/
def ofMessage (reason : Reason) (message : Datum) (data : Fields) : Report where
  reason := reason
  code := reason.code
  message := message
  data := publishedFields data
  retryable := .bool (reason = .store)
  cause := none
  stakes := none

/-- A report under a reason. -/
def of (reason : Reason) (message : String) (data : Fields) : Report :=
  ofMessage reason (.text message) data

/-- A report with a code of its own. -/
def ofCode (code : String) (message : Datum) (data : Fields) (retryable : Datum) : Report :=
  { ofMessage .general message data with code := code, retryable := retryable }

/-- A report of missing stake. Further data may overwrite the two amounts. -/
def ofStakes (verified total : Datum) (data : Fields) : Report :=
  let amounts : Fields :=
    [("verified_stake", .text verified.display), ("total_stake", .text total.display)]
  { of .insufficientStake Reason.insufficientStake.defaultMessage (amounts.merge data) with
    stakes := some (verified, total) }

/-- A report of a limit that was passed. -/
def ofLimit (resource limit got : Datum) : Report :=
  of .limitExceeded ("limit exceeded: " ++ resource.display)
    [("resource", resource), ("limit", limit), ("got", got)]

/-- A report of a frozen client. -/
def ofFrozen (height : Datum) (data : Fields) : Report :=
  of .clientFrozen Reason.clientFrozen.defaultMessage
    (Fields.merge [("frozen_height", height)] data)

/-- The report with more data, which wins over what it had. -/
def withContext (report : Report) (data : Fields) : Report :=
  { report with data := report.data.merge (publishedFields data) }

/-- The report with a cause. -/
def withCause (report : Report) (cause : Cause) : Report := { report with cause := some cause }

/-- The most characters of a value that a report's text shows. -/
def shownLimit : Nat := 96

/-- A value in the text of a report. -/
def shownValue (value : Datum) : String :=
  let text := value.display.toList
  if text.length ≤ shownLimit then String.ofList text
  else String.ofList (text.take shownLimit) ++ "..."

/-- The text of a report: code and message, and the data in brackets. -/
def text (report : Report) : String :=
  let line := report.code ++ ": " ++ report.message.display
  if report.data.isEmpty then line
  else
    line ++ " [" ++ ", ".intercalate (report.data.map fun (name, value) =>
      name ++ "=" ++ shownValue value) ++ "]"

/-- A report as the cause of another. -/
def asCause (report : Report) : Cause := ⟨report.reason.name, report.text⟩

/-- A report as data, with its cause if that is asked for. -/
def toDatum (report : Report) (includeCause : Bool) : Datum :=
  .record
    ([("code", .text report.code), ("message", report.message),
      ("data", .record report.data), ("retryable", report.retryable)]
      ++ match includeCause, report.cause with
        | true, some cause =>
          [("cause", .record [("type", .text cause.type), ("message", .text cause.message)])]
        | _, _ => [])

end Report

end Finality
