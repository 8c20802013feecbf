import Finality.Report

/-!
# Log context

Fields that are bound apply to every record until they are unbound. A scope opens with
fields of its own, first of all the id of a trace, and closes by restoring the fields
from before it, whatever was bound or unbound inside.
-/

namespace Finality

/-- A datum as it stands in a log record: byte strings in hexadecimal, tuples as lists, and
whatever has no form of its own as text. -/
def Datum.logged : Datum → Datum
  | .bytes value => .text (toHex value)
  | .list items => .list (loggedItems items)
  | .tuple items => .list (loggedItems items)
  | datum =>
    if datum.isScalar then datum else .text datum.display
where
  /-- The items of a list as they stand in a log record. -/
  loggedItems : List Datum → List Datum
    | [] => []
    | item :: items => Datum.logged item :: loggedItems items

/-- Fields as they stand in a log record. -/
def Fields.logged (fields : Fields) : Fields :=
  fields.map fun (name, value) => (name, value.logged)

/-- The fields of every record. -/
structure LogContext where
  /-- The fields that are bound. -/
  bound : Fields
  /-- The fields that were bound before each open scope, the innermost first. -/
  saved : List Fields

namespace LogContext

/-- The name of the field that holds the id of a trace. -/
def traceField : String := "trace_id"

/-- Nothing is bound and no scope is open. -/
def empty : LogContext := ⟨[], []⟩

/-- Bind fields, which win over those already bound. -/
def bind (context : LogContext) (fields : Fields) : LogContext :=
  { context with bound := context.bound.merge fields.logged }

/-- Unbind fields by name. -/
def unbind (context : LogContext) (names : List String) : LogContext :=
  { context with bound := context.bound.filter fun field => !names.contains field.1 }

/-- Open a scope. -/
def enter (context : LogContext) (trace : String) (fields : Fields) : LogContext where
  bound := (context.bound.insert traceField (.text trace)).merge fields.logged
  saved := context.bound :: context.saved

/-- Close the innermost scope, if one is open. -/
def leave? (context : LogContext) : Option LogContext :=
  match context.saved with
  | [] => none
  | bound :: saved => some ⟨bound, saved⟩

end LogContext

end Finality
