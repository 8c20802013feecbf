import Finality.Chain.Shown
import Finality.Number.Exact
import Finality.Number.Integer

/-!
# Data without a fixed type

A `Datum` is a value whose type is known only when it is looked at: an item of the tagged
wire form, a field of an error or of a log line, a JSON value, an argument that a host
passes in. Maps keep the order in which keys were first seen.
-/

namespace Finality

/-- An error of the host's own. -/
structure HostError where
  /-- The name of its type. -/
  type : String
  /-- Its text. -/
  message : String
  /-- Whether it is about a value or the type of one. -/
  ofValue : Bool
deriving DecidableEq

/-- What a special value is equal to. -/
inductive Sense where
  /-- A number, given by its real and its imaginary part: every equal number. -/
  | number (real imaginary : Extended)
  /-- The number of a simple value: the same integer, and the same simple value. -/
  | simple (number : Nat)
  /-- A point in time, in microseconds since the start of 1970: the same point, however it is
  written. -/
  | instant (microseconds : Int)
  /-- A value of its type: one with the same description. -/
  | description
  /-- Nothing but itself. -/
  | nothing
  /-- A container inside itself. It can be no key. -/
  | cycle

/-- A value of a type that is not made of data. -/
structure Special where
  /-- The name of its type. -/
  type : String
  /-- Its full description. -/
  shown : String
  /-- Its text, or the error that it has none for. -/
  text : Except HostError String
  /-- What it is equal to. -/
  sense : Sense

/-- A value of any type. -/
inductive Datum where
  /-- No value. -/
  | null
  /-- A truth value. -/
  | bool (value : Bool)
  /-- An integer of any size. -/
  | int (value : Int)
  /-- A floating-point number. -/
  | float (value : Binary64)
  /-- A text. -/
  | text (value : String)
  /-- A text with an unpaired surrogate, given by its codes. -/
  | brokenText (codes : List Nat)
  /-- A byte string. -/
  | bytes (value : Bytes)
  /-- A list. -/
  | list (items : List Datum)
  /-- A fixed list, as used for the keys of maps. -/
  | tuple (items : List Datum)
  /-- A map from keys of any type. -/
  | map (entries : List (Datum × Datum))
  /-- A map that does not change, as used inside the keys of maps. -/
  | frozenMap (entries : List (Datum × Datum))
  /-- A set, which may be one that does not change. -/
  | set (frozen : Bool) (items : List Datum)
  /-- A datum that is marked by a number. -/
  | tagged (tag : Nat) (item : Datum)
  /-- A value that has a wire form. -/
  | object (value : Value)
  /-- Anything else. -/
  | special (value : Special)
deriving Inhabited

namespace Datum

/-- The name of the type of a datum. -/
def typeName : Datum → String
  | null => "NoneType"
  | bool _ => "bool"
  | int _ => "int"
  | float _ => "float"
  | text _ | brokenText _ => "str"
  | bytes _ => "bytes"
  | list _ => "list"
  | tuple _ => "tuple"
  | map _ => "dict"
  | frozenMap _ => "frozendict"
  | set frozen _ => if frozen then "frozenset" else "set"
  | tagged _ _ => "CBORTag"
  | object v => v.kind.name
  | special v => v.type

/-- A natural number as a datum. -/
def nat (value : Nat) : Datum := int value

/-- A map with text keys. -/
def record (fields : List (String × Datum)) : Datum :=
  map (fields.map fun (name, value) => (text name, value))

/-- The word for a truth value. -/
def truthText (value : Bool) : String := if value then "True" else "False"

/-- The parts of a map, between braces. -/
def braced (parts : List String) : String := "\x7b" ++ ", ".intercalate parts ++ "\x7d"

mutual

/-- The full description of a datum, with texts in quotes. -/
def shown : Datum → String
  | null => "None"
  | bool value => truthText value
  | int value => toString value
  | float value => value.text
  | text value => Text.quoted value
  | brokenText codes => Text.quotedCodes codes
  | bytes value => Text.quotedBytes value
  | list items => "[" ++ ", ".intercalate (shownItems items) ++ "]"
  | tuple items => Shown.tuple (shownItems items)
  | map entries => braced (shownEntries entries)
  | frozenMap entries => "frozendict(" ++ braced (shownEntries entries) ++ ")"
  | set frozen items =>
    if items.isEmpty then (if frozen then "frozenset()" else "set()")
    else if frozen then "frozenset(" ++ braced (shownItems items) ++ ")"
    else braced (shownItems items)
  | tagged tag item => "CBORTag(" ++ toString tag ++ ", " ++ shown item ++ ")"
  | object v => v.shown
  | special v => v.shown

/-- The descriptions of the items of a list. -/
def shownItems : List Datum → List String
  | [] => []
  | item :: items => shown item :: shownItems items

/-- The descriptions of the entries of a map. -/
def shownEntries : List (Datum × Datum) → List String
  | [] => []
  | (key, value) :: entries => (shown key ++ ": " ++ shown value) :: shownEntries entries

end

/-- A datum as text: texts stand for themselves, heights and keys have their own form, as have
special values, and everything else is described in full. -/
def display : Datum → String
  | text value => value
  | brokenText codes => Text.ofCodes codes
  | object v => v.text?.getD v.shown
  | special v => v.text.toOption.getD v.shown
  | datum => datum.shown

/-- The items that a datum is made of, where it has some: the characters of a text, the numbers
of a byte string, the keys of a map, the validators of a roster. -/
def elements? : Datum → Option (List Datum)
  | text value => some (value.toList.map fun char => text (String.singleton char))
  | brokenText codes =>
    some (codes.map fun code =>
      if Text.isSurrogate code then brokenText [code] else text (String.ofList [Char.ofNat code]))
  | bytes value => some (value.map fun byte => nat byte.toNat)
  | list items | tuple items | set _ items => some items
  | map entries | frozenMap entries => some (entries.map (·.1))
  | object ⟨.roster, roster⟩ =>
    some (Roster.validators roster |>.map fun validator => object ⟨.validator, validator⟩)
  | _ => none

/-- The number that a truth value, an integer or an integral float stands for. -/
def integral? : Datum → Option Int
  | bool value => some (if value then 1 else 0)
  | int value => some value
  | float value => value.toInt?
  | _ => none

/-- The number that a datum stands for, given by its real and its imaginary part. -/
def number? : Datum → Option (Extended × Extended)
  | bool value => some (.finite (.ofInt (if value then 1 else 0)), .zero)
  | int value => some (.finite (.ofInt value), .zero)
  | float value => some (.ofFloat value, .zero)
  | special ⟨_, _, _, .number real imaginary⟩ => some (real, imaginary)
  | _ => none

/-- Whether two data are equal numbers, whatever their types. -/
def sameNumber (left right : Datum) : Bool :=
  match left.number?, right.number? with
  | some left, some right => left.1.same right.1 && left.2.same right.2
  | _, _ => false

/-- Whether a special value is equal to a datum. -/
def sameSpecial (left : Special) (right : Datum) : Bool :=
  match left.sense, right with
  | .simple number, .int value => value == number
  | .simple number, .bool value => number == if value then 1 else 0
  | .simple number, .special ⟨_, _, _, .simple other⟩ => number == other
  | .instant time, .special ⟨_, _, _, .instant other⟩ => time == other
  | .description, .special right =>
    right.sense matches .description && left.type == right.type && left.shown == right.shown
  | _, right => sameNumber (special left) right

mutual

/-- Whether two data are the same key of a map. -/
def sameKey : Datum → Datum → Bool
  | null, null => true
  | text left, text right => left == right
  | brokenText left, brokenText right => left == right
  | bytes left, bytes right => left == right
  | int left, int right => left == right
  | tuple left, tuple right => sameKeys left right
  | list left, list right => sameKeys left right
  | set _ left, set _ right => left.length == right.length && areAmong left right
  | map left, map right | map left, frozenMap right | frozenMap left, map right
  | frozenMap left, frozenMap right => left.length == right.length && areEntriesOf left right
  | tagged leftTag left, tagged rightTag right => leftTag == rightTag && sameKey left right
  | object left, object right => left == right
  | special left, right => sameSpecial left right
  | left, special right => sameSpecial right left
  | left, right => sameNumber left right

/-- Whether two lists are the same, item by item. -/
def sameKeys : List Datum → List Datum → Bool
  | [], [] => true
  | left :: lefts, right :: rights => sameKey left right && sameKeys lefts rights
  | _, _ => false

/-- Whether all of some data are among others. -/
def areAmong : List Datum → List Datum → Bool
  | [], _ => true
  | left :: lefts, rights => rights.any (sameKey left) && areAmong lefts rights

/-- Whether all of some entries are among others. -/
def areEntriesOf : List (Datum × Datum) → List (Datum × Datum) → Bool
  | [], _ => true
  | (key, value) :: lefts, rights =>
    (rights.any fun right => sameKey key right.1 && sameKey value right.2)
      && areEntriesOf lefts rights

end

mutual

/-- Whether a datum can be the key of a map or the item of a set: nothing in it can change. -/
def isKey : Datum → Bool
  | list _ | map _ => false
  | set frozen _ => frozen
  | tuple items => areKeys items
  | frozenMap entries => areFixed entries
  | tagged _ item => isKey item
  | special v => !(v.sense matches .cycle)
  | _ => true

/-- Whether all of some data can be keys. -/
def areKeys : List Datum → Bool
  | [] => true
  | item :: items => isKey item && areKeys items

/-- Whether nothing in some entries can change. -/
def areFixed : List (Datum × Datum) → Bool
  | [] => true
  | (key, value) :: entries => isKey key && isKey value && areFixed entries

end

mutual

/-- Whether a predicate holds of some part of a datum, the datum itself included. -/
def somePart (holds : Datum → Bool) : Datum → Bool
  | list items => holds (list items) || someItem holds items
  | tuple items => holds (tuple items) || someItem holds items
  | set frozen items => holds (set frozen items) || someItem holds items
  | map entries => holds (map entries) || someEntry holds entries
  | frozenMap entries => holds (frozenMap entries) || someEntry holds entries
  | tagged tag item => holds (tagged tag item) || somePart holds item
  | datum => holds datum

/-- Whether a predicate holds of some part of a list. -/
def someItem (holds : Datum → Bool) : List Datum → Bool
  | [] => false
  | item :: items => somePart holds item || someItem holds items

/-- Whether a predicate holds of some part of the entries of a map. -/
def someEntry (holds : Datum → Bool) : List (Datum × Datum) → Bool
  | [] => false
  | (key, value) :: entries =>
    somePart holds key || somePart holds value || someEntry holds entries

end

/-- Whether a fraction has more decimal digits above or below its line than are written as
text. -/
def isLongFraction (value : Exact) : Bool :=
  match value.ratio? with
  | some (above, below) => Integer.isLong above || Integer.isLong below
  | none => true

/-- Whether a datum holds an integer with more decimal digits than are written as text, by itself
or in a fraction. -/
def hasLongNumber (datum : Datum) : Bool :=
  datum.somePart fun part =>
    match part with
    | int value => Integer.isLong value
    | special ⟨"Fraction", _, _, .number (.finite value) _⟩ => isLongFraction value
    | _ => false

/-- Whether a datum holds itself. -/
def hasCycle (datum : Datum) : Bool :=
  datum.somePart fun part => part matches .special ⟨_, _, _, .cycle⟩

/-- Whether a datum is nothing, zero or empty. -/
def isVoid (datum : Datum) : Bool :=
  match datum with
  | null => true
  | bool value => !value
  | int value => value == 0
  | float value => value.toInt? == some 0
  | object _ => false
  | datum => datum.elements? matches some []

/-- Whether a datum is a text. -/
def isText : Datum → Bool
  | text _ | brokenText _ => true
  | _ => false

/-- Whether a datum is made of nothing else: no value, a truth value, a number or a text. -/
def isScalar : Datum → Bool
  | null | bool _ | int _ | float _ | text _ | brokenText _ => true
  | _ => false

/-- A map with one more entry: a known key keeps its place and takes the new value. -/
def insertEntry (key value : Datum) : List (Datum × Datum) → List (Datum × Datum)
  | [] => [(key, value)]
  | (known, old) :: entries =>
    if sameKey known key then (known, value) :: entries
    else (known, old) :: insertEntry key value entries

/-- A map with an entry under a text key. -/
def withEntry (datum : Datum) (name : String) (value : Datum) : Datum :=
  match datum with
  | map entries => map (insertEntry (text name) value entries)
  | datum => datum

/-- The value of a text key. -/
def lookup? (name : String) : List (Datum × Datum) → Option Datum
  | [] => none
  | (text known, value) :: entries => if known = name then some value else lookup? name entries
  | _ :: entries => lookup? name entries

end Datum

end Finality
