import Finality.Report

/-!
# Raised errors

A host raises errors by the name of their reason, with arguments in order and data by
name, and also errors of its own that the library only knows by type and text.
`Report.ofArguments` says which arguments a reason takes; `Raised.wrap` turns any error
into a report.
-/

namespace Finality

/-- The error that a host raises with arguments. A text stands for itself, unless the type
shows it in quotes; several arguments are shown together. -/
def Cause.ofArguments (type : String) (quotes : Bool) (arguments : List Datum) : Cause :=
  ⟨type, match arguments with
    | [] => ""
    | [argument] => if quotes then argument.shown else argument.display
    | arguments => (Datum.tuple arguments).shown⟩

/-- The cause that is given as a datum, which is an error or nothing. -/
def Cause.ofDatum? : Datum → Option Cause
  | .null => none
  | error => some ⟨error.typeName, error.display⟩

/-- An argument that a reason takes: its name, and its value where it is left out. -/
structure Parameter where
  /-- The name under which the argument can be given. -/
  name : String
  /-- The value of an argument that is left out, if it can be. -/
  standard : Option Datum

/-- The arguments that a reason takes, in order. -/
def Reason.parameters : Reason → List Parameter
  | general =>
    [⟨"code", none⟩, ⟨"message", none⟩, ⟨"data", some (.map [])⟩,
      ⟨"retryable", some (.bool false)⟩, ⟨"cause", some .null⟩]
  | insufficientStake => [⟨"verified", none⟩, ⟨"total", none⟩]
  | limitExceeded => [⟨"resource", none⟩, ⟨"limit", none⟩, ⟨"got", none⟩]
  | clientFrozen => [⟨"frozen_height", none⟩]
  | clientNotFound | clientAlreadyExists => [⟨"client_id", none⟩]
  | _ => [⟨"message", some .null⟩]

/-- Whether a reason takes data besides its arguments. -/
def Reason.takesData : Reason → Bool
  | general | limitExceeded | clientNotFound | clientAlreadyExists => false
  | _ => true

/-- The name that no datum of an error can have: it stands for the error. -/
def Reason.reservedName : String := "self"

/-- Why an error cannot be raised or changed. -/
inductive RaiseFault where
  /-- An argument is missing, left over, given twice or of no use. -/
  | arguments
  /-- Data have no names. -/
  | notMap
  /-- The error is none that is reported. -/
  | notReported
deriving DecidableEq

/-- Arguments in order, where those that are missing are looked up by name, and the data that
remain. No argument is given twice and none is left over. -/
def Parameter.bind? : List Parameter → List Datum → Fields → Option (List Datum × Fields)
  | [], [], data => some ([], data)
  | [], _ :: _, _ => none
  | parameter :: parameters, argument :: arguments, data =>
    if (data.get? parameter.name).isSome then none
    else (bind? parameters arguments data).map fun (values, rest) => (argument :: values, rest)
  | parameter :: parameters, [], data =>
    match (data.get? parameter.name).or parameter.standard with
    | none => none
    | some value =>
      (bind? parameters [] (data.erase parameter.name)).map fun (values, rest) =>
        (value :: values, rest)

namespace Report

/-- A message, or the one that a reason brings where there is none. -/
def messageOr (reason : Reason) (message : Datum) : Datum :=
  if message.isVoid then .text reason.defaultMessage else message

/-- The report of a reason with its arguments and data. -/
def ofValues (reason : Reason) (values : List Datum) (data : Fields) :
    Except RaiseFault Report :=
  match reason, values with
  | .general, [code, message, .map entries, retryable, cause] =>
    .ok { ofCode code.display message (.ofEntries entries) retryable with
      cause := Cause.ofDatum? cause }
  | .general, _ => .error .notMap
  | .insufficientStake, [verified, total] => .ok (ofStakes verified total data)
  | .limitExceeded, [resource, limit, got] => .ok (ofLimit resource limit got)
  | .clientFrozen, [height] => .ok (ofFrozen height data)
  | .clientNotFound, [client] | .clientAlreadyExists, [client] =>
    .ok (of reason reason.defaultMessage [("client_id", client)])
  | _, [message] => .ok (ofMessage reason (messageOr reason message) data)
  | _, _ => .error .arguments

/-- The report that a reason makes of arguments and data, if it takes them. -/
def ofArguments (reason : Reason) (arguments : List Datum) (data : Fields) :
    Except RaiseFault Report :=
  match Parameter.bind? reason.parameters arguments data with
  | none => .error .arguments
  | some (values, rest) =>
    if (rest.get? Reason.reservedName).isSome || (!reason.takesData && !rest.isEmpty) then
      .error .arguments
    else ofValues reason values rest

end Report

/-- An error as a host sees it. -/
inductive Raised where
  | foreign (cause : Cause)
  | reported (report : Report)

namespace Raised

/-- The name of an error's type. -/
def type : Raised → String
  | foreign cause => cause.type
  | reported report => report.reason.name

/-- The text of an error. -/
def text : Raised → String
  | foreign cause => cause.message
  | reported report => report.text

/-- An error as the cause of another. -/
def asCause (error : Raised) : Cause := ⟨error.type, error.text⟩

/-- The error that a host raises by the name of its type. A report under no particular reason
takes its data as one map, and says itself whether trying again can help. -/
def ofName (name : String) (arguments : List Datum) (data : Fields) (retryable : Datum) :
    Except RaiseFault Raised :=
  match Reason.ofName? name with
  | none => .ok (.foreign (.ofArguments name (name = "KeyError") arguments))
  | some .general =>
    (Report.ofArguments .general arguments
      [("data", .record data), ("retryable", retryable)]).map .reported
  | some reason => (Report.ofArguments reason arguments data).map .reported

/-- An error with more data, if it is a report. -/
def withContext (error : Raised) (data : Fields) : Except RaiseFault Raised :=
  match error with
  | foreign _ => .error .notReported
  | reported report =>
    if (data.get? Reason.reservedName).isSome then .error .arguments
    else .ok (.reported (report.withContext data))

/-- An error with a cause, if it is a report. -/
def withCause (error : Raised) (cause : Cause) : Except RaiseFault Raised :=
  match error with
  | foreign _ => .error .notReported
  | reported report => .ok (.reported (report.withCause cause))

/-- The name by which the data of a wrapped error would name the error. -/
def errorName : String := "exc"

/-- The name by which the data of a wrapped error would name its reason. -/
def reasonName : String := "as_"

/-- A report with more data. An error of the host's own becomes the cause of a report under
a reason, whose first argument is the error's text or, where it has none, its type. The data
cannot name the error, and a reason that they name is of no use. -/
def wrap (error : Raised) (reason : Option Reason) (data : Fields) :
    Except RaiseFault Raised :=
  if (data.get? errorName).isSome then .error .arguments
  else
    let rest := data.erase reasonName
    match error with
    | foreign cause =>
      if reason.isNone && (data.get? reasonName).isSome then .error .arguments
      else
        let message := if cause.message = "" then cause.type else cause.message
        (Report.ofArguments (reason.getD .internal) [.text message] rest).map fun report =>
          .reported (report.withCause cause)
    | reported _ => error.withContext rest

end Raised

end Finality
