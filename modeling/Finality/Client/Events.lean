import Finality.Client.Calls
import Finality.Log.Level

/-!
# What a client logs

Every call of a client logs events. An event belongs to a logger and carries fields. The
calls that submit headers bind the client's id for their duration, so it is a field of all
events within them; workers of their own do not see what the caller has bound.
-/

namespace Finality

/-- An event of a client. -/
structure Event where
  level : Level
  logger : String
  message : String
  bound : Fields
  extra : Fields

/-- All fields of an event. Bound fields win over those of the event. -/
def Event.fields (event : Event) : Fields :=
  event.bound ++ event.extra.filter fun field => (Fields.get? event.bound field.1).isNone

namespace ClientId

variable (client : ClientId) (records : Records)

/-- What the calls that submit headers bind. -/
def boundFields : Fields := [("client_id", .text client.text)]

/-- The log of the header verifier. -/
def verifiedEvent (bound : Fields) (verified : VerifiedHeader) : Event :=
  ⟨.debug, "lightclient.verifier", "header verified", bound,
    [("height", .text verified.height.text),
      ("epoch", .text (toHex verified.consensusState.epochId.bytes)),
      ("verified_stake", .text (toString verified.verified)),
      ("total_stake", .text (toString verified.total)),
      ("rollover", .bool verified.newEpoch.isSome)]⟩

/-- The events of a call that installs the client. -/
def installEvents (state : ClientState) (outcome : Outcome Unit) : List Event :=
  match outcome with
  | .ok () =>
    [⟨.info, "lightclient.client", "client initialised", [],
      [("client_id", .text client.text), ("height", .text state.latestHeight.text)]⟩]
  | .error _ => []

/-- The event of a header that is turned down. -/
def rejectedEvents (header : Header) (failure : Failure) : List Event :=
  match failure with
  | .rejected rejection =>
    [⟨.info, "lightclient.client", "header rejected", client.boundFields,
      [("height", .text header.height.text), ("reason", .text rejection.report.code)]⟩]
  | _ => []

variable [Signing]

/-- The events of a call that submits a header. -/
def updateEvents (config : Config) (header : Header) : List Event :=
  let trusted : Outcome Snapshot := do
    let state ← client.liveState records
    client.snapshot records state state.latestHeight
  match trusted with
  | .error _ => []
  | .ok trusted =>
    match verifyHeader config trusted header with
    | .error failure => client.rejectedEvents header failure
    | .ok verified =>
      verifiedEvent client.boundFields verified
        :: match client.checkEpoch records verified with
          | .error failure => client.rejectedEvents header failure
          | .ok () =>
            [⟨.info, "lightclient.client", "header accepted", client.boundFields,
              [("height", .text verified.height.text),
                ("epoch", .text (toHex header.inner.epochId.bytes)),
                ("rollover", .bool verified.newEpoch.isSome)]⟩]

/-- The events of verifying both headers of misbehaviour: one after the other, the second only
if the first is final; or each by a worker of its own. -/
def detectEvents (config : Config) (trusted : Snapshot) (misbehaviour : Misbehaviour) :
    List Event :=
  if misbehaviour.first = misbehaviour.second then []
  else
    let parallel := 1 < config.verifier.signatureWorkers
    let bound := if parallel then [] else client.boundFields
    let events (outcome : Outcome VerifiedHeader) : List Event :=
      outcome.toOption.toList.map (verifiedEvent bound)
    match verifyHeader config trusted misbehaviour.first with
    | .ok first =>
      verifiedEvent bound first :: events (verifyHeader config trusted misbehaviour.second)
    | .error _ =>
      if parallel then events (verifyHeader config trusted misbehaviour.second) else []

/-- The events of a call that submits misbehaviour. -/
def misbehaviourEvents (config : Config) (misbehaviour : Misbehaviour) : List Event :=
  let trusted : Outcome Snapshot := do
    let state ← client.liveState records
    if misbehaviour.clientId ≠ client.text then
      reject (.otherClient client.text misbehaviour.clientId)
    client.snapshot records state misbehaviour.trustedHeight
  match trusted with
  | .error _ => []
  | .ok trusted =>
    client.detectEvents config trusted misbehaviour
      ++ match detect config trusted misbehaviour with
        | .error _ => []
        | .ok evidence =>
          let fields : Fields :=
            [("height", .text evidence.freezeHeight.text),
              ("reason", .text evidence.conflict.description)]
          [⟨.info, "lightclient.misbehaviour", "misbehaviour proven", client.boundFields,
              ("client_id", .text misbehaviour.clientId) :: fields⟩,
            ⟨.warning, "lightclient.client", "client frozen", client.boundFields, fields⟩]

/-- The events of dropping consensus states. -/
def pruneEvents (count : Nat) : List Event :=
  if count = 0 then []
  else
    [⟨.info, "lightclient.store", "pruned consensus states", [],
      [("client_id", .text client.text), ("count", .nat count)]⟩]

end ClientId

end Finality
