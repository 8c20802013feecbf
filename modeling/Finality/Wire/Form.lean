import Finality.Wire.Compact
import Finality.Wire.Tagged

/-!
# The two wire forms

Values travel in compact form, where the kind is known, or in tagged form, where the
message says its own kind. `Value.view` is a third form for people: data as JSON can hold
it, with byte strings in hexadecimal and large integers as text.
-/

namespace Finality

/-- The wire forms. -/
inductive Form where
  | compact
  | tagged
deriving DecidableEq

namespace Form

/-- All forms. -/
def all : List Form := [compact, tagged]

/-- The name of a form. -/
def name : Form → String
  | compact => "compact"
  | tagged => "tagged"

/-- The form with a name. -/
def ofName? (name : String) : Option Form := all.find? fun form => form.name == name

/-- The text of the fault that no form has a name. -/
def unknownMessage (name : String) : String :=
  "unknown format " ++ Text.quoted name ++ "; expected one of "
    ++ Shown.tuple (all.map fun form => Text.quoted form.name)

end Form

namespace Value

/-- A value in compact form. -/
def compact (value : Value) : Bytes := Compact.encode value.kind value.content

/-- A value in a form, when it has that form. -/
def encode? (form : Form) (value : Value) : Option Bytes :=
  match form with
  | .compact => (Compact.encodeChecked value.kind value.content).toOption
  | .tagged => Tagged.encode? value

/-- The text of the fault that a kind has no tagged form. -/
def noUrlMessage (kind : Kind) : String := kind.name ++ " has no type url"

/-- The value of a kind that a byte string is a form of. -/
def decode [Host] (form : Form) (kind : Kind) (input : Bytes) : Except FormFault Value :=
  match form with
  | .compact => ((Compact.decode kind input).map fun content => ⟨kind, content⟩).mapError .decode
  | .tagged => Tagged.decode (some kind) input

end Value

/-- What a byte string is decoded as: a value of a known kind in compact form, or a message in
tagged form, of which a kind can be expected. -/
inductive Target where
  | compact (kind : Kind)
  | tagged (expected : Option Kind)

namespace Target

variable [Host]

/-- The form of what is decoded. -/
def form : Target → Form
  | compact _ => .compact
  | tagged _ => .tagged

/-- The value that a byte string is the form of. -/
def read (target : Target) (input : Bytes) : Except FormFault Value :=
  match target with
  | compact kind => Value.decode .compact kind input
  | tagged expected => Tagged.decode expected input

/-- The value that an argument of any type is the form of. -/
def decode (target : Target) (argument : Datum) : Except FormFault Value :=
  match argument with
  | .bytes input => target.read input
  | other => .error (.decode (.notBytes other.typeName))

end Target

/-- The target of a form and a kind. -/
def Form.target (form : Form) (kind : Kind) : Target :=
  match form with
  | compact => .compact kind
  | tagged => .tagged (some kind)

namespace Datum

/-- The largest integer that a view shows as a number. -/
def viewLimit : Int := Nat.pow 2 53

mutual

/-- The view of a datum, where values are viewed by `ofValue`. -/
def viewWith (ofValue : Value → Datum) : Datum → Datum
  | bytes value => text (toHex0x value)
  | int value => if viewLimit < value then text (toString value) else int value
  | list items => list (viewItems ofValue items)
  | tuple items => list (viewItems ofValue items)
  | map entries => map (viewEntries ofValue entries)
  | object value => ofValue value
  | datum => datum

/-- The views of the items of a list. -/
def viewItems (ofValue : Value → Datum) : List Datum → List Datum
  | [] => []
  | item :: items => viewWith ofValue item :: viewItems ofValue items

/-- The entries of a map with the views of their values. -/
def viewEntries (ofValue : Value → Datum) : List (Datum × Datum) → List (Datum × Datum)
  | [] => []
  | (key, value) :: entries =>
    (key, viewWith ofValue value) :: viewEntries ofValue entries

end

end Datum

/-- The view of a value: the view of its fields, among which there are no further values. -/
def Value.view (value : Value) : Datum := value.fields.viewWith Datum.object

/-- The view of a datum. Values inside it are shown by their fields. -/
def Datum.view (datum : Datum) : Datum := datum.viewWith Value.view

end Finality
