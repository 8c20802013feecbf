import Finality.Json.Writer
import Finality.Log.Context
import Finality.Log.Level
import Finality.Log.Message
import Finality.Log.Timestamp

/-!
# Log records

A record is written as one line, either as JSON or as columns of text. Its fields are
those of the context and, where these do not shadow them, those of the record itself.
-/

namespace Finality

/-- How records are written. -/
inductive LogFormat where
  | json
  | text
deriving DecidableEq

/-- A log record. -/
structure LogRecord where
  /-- When the record was made. -/
  time : Timestamp
  /-- The severity. -/
  level : Level
  /-- The name of the logger. -/
  logger : String
  /-- The message, which may hold places for the arguments. -/
  message : String
  /-- The arguments of the message. -/
  arguments : Message.Arguments
  /-- Further fields. -/
  extra : Fields
  /-- The error that the record is about. -/
  error : Option Cause

/-- Why a record has no line. -/
inductive RecordFault where
  | time (fault : TimestampFault)
  | message (fault : MessageFault)

/-- The text of an error in a record: its type and, unless it is empty, its own text. -/
def Cause.line (cause : Cause) : String :=
  if cause.message = "" then cause.type else cause.type ++ ": " ++ cause.message

namespace LogRecord

/-- The names of what a record has besides its fields. -/
def reservedNames : List String := [
  "name", "msg", "args", "levelname", "levelno", "pathname", "filename", "module",
  "exc_info", "exc_text", "stack_info", "lineno", "funcName", "created", "msecs",
  "relativeCreated", "thread", "threadName", "processName", "process", "message",
  "asctime", "taskName"]

/-- Whether a record cannot be made, as a further field would take the place of a part of
it. The name of a task is kept out of the fields, yet is no part of every record. -/
def clashes (record : LogRecord) : Bool :=
  record.extra.any fun field => field.1 != "taskName" && reservedNames.contains field.1

/-- Whether a further field of a record is shown. -/
def isField (name : String) : Bool :=
  !reservedNames.contains name && !name.startsWith "_"

/-- The fields of a record: the context, and what it does not shadow. -/
def fields (record : LogRecord) (context : LogContext) : Fields :=
  let bound := context.bound
  bound ++ Fields.logged (record.extra.filter fun field =>
    isField field.1 && (bound.get? field.1).isNone)

/-- The message of a record with its arguments. -/
def filled (record : LogRecord) : Except RecordFault String :=
  (Message.fill record.message record.arguments).mapError .message

/-- The time of a record. -/
def stamp (record : LogRecord) : Except RecordFault String :=
  match record.time.fault? with
  | some fault => .error (.time fault)
  | none => .ok record.time.text

/-- The name of the member that holds the time. -/
def timeName : String := "ts"

/-- The members of a record as JSON. Fields take the place of the members of their name, and
the text of an error that of a field. -/
def members (record : LogRecord) (context : LogContext) : Except RecordFault Fields := do
  let stamp ← record.stamp
  let message ← record.filled
  let own : Fields := [(timeName, .text stamp), ("level", .text record.level.name),
    ("logger", .text record.logger), ("msg", .text message)]
  let all := own.merge (record.fields context)
  return match record.error with
    | none => all
    | some cause => all.insert "err" (.text cause.line)

/-- The fields that stand first in text, if they have a value. -/
def leadingNames : List String := [LogContext.traceField, "client_id", "height", "epoch"]

/-- The fields of a record in the order of its text. -/
def orderedFields (fields : Fields) : Fields :=
  leadingNames.filterMap (fun name => match fields.get? name with
    | none | some .null => none
    | some value => some (name, value))
    ++ fields.filter fun field => !leadingNames.contains field.1

/-- Between the columns of a record. -/
def separator : String := " | "

/-- The columns of a record as text. -/
def columns (record : LogRecord) (context : LogContext) : Except RecordFault (List String) := do
  let stamp ← record.stamp
  let message ← record.filled
  let level := record.level.name.toList
  let shown := (orderedFields (record.fields context)).map fun (name, value) =>
    name ++ "=" ++ value.display
  return [stamp,
      String.ofList (level ++ List.replicate (5 - level.length) ' '), record.logger]
    ++ (if shown.isEmpty then [] else [" ".intercalate shown]) ++ [message]

/-- The text of the error below a record as text. -/
def errorLine (record : LogRecord) : String :=
  match record.error with
  | none => ""
  | some cause => "\n" ++ cause.line

/-- The record in a format. -/
def line (record : LogRecord) (format : LogFormat) (context : LogContext) :
    Except RecordFault String :=
  match format with
  | .json => (record.members context).map fun members =>
      Json.render Json.Layout.dense (.record members)
  | .text => (record.columns context).map fun columns =>
      separator.intercalate columns ++ record.errorLine

/-- The record in a format, without its time. -/
def timeless (record : LogRecord) (format : LogFormat) (context : LogContext) :
    Except RecordFault String :=
  match format with
  | .json => (record.members context).map fun members =>
      Json.render Json.Layout.dense (.record (members.erase timeName))
  | .text => (record.columns context).map fun columns =>
      separator.intercalate (columns.drop 1) ++ record.errorLine

end LogRecord

end Finality
