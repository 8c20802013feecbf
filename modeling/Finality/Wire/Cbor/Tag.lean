import Finality.Datum
import Finality.Host
import Finality.Network.Address
import Finality.Number.Literal
import Finality.Number.Scaled
import Finality.Text.Pattern

/-!
# Tagged CBOR items

A tag says what an item stands for. Some tags ask for items of a certain form and refuse
all others; an item under a tag that is not known is kept as tagged. Of the tags that this
library's messages use, 2 and 3 stand for integers outside 64 bits.
-/

namespace Finality

namespace Special

/-- A value that is equal to those of its type with the same description: the name of the type
and the text. -/
def named (type text : String) : Special :=
  ⟨type, type ++ "(" ++ Text.quoted text ++ ")", .ok text, .description⟩

/-- A point in time. -/
def moment (moment : Moment) : Special :=
  let (hour, minute, second, microsecond) := moment.clock
  let fields := [moment.date.year, moment.date.month, moment.date.day, hour, minute]
    ++ (if second = 0 ∧ microsecond = 0 then [] else [second])
    ++ (if microsecond = 0 then [] else [microsecond])
  let offset : Int := moment.offset * 60
  let span := (if offset < 0 then "days=-1, " else "") ++ "seconds=" ++ toString (offset % 86400)
  let zone := if offset = 0 then "utc" else "(datetime.timedelta(" ++ span ++ "))"
  ⟨"datetime", "datetime.datetime(" ++ ", ".intercalate (fields.map fun field => toString field)
    ++ ", tzinfo=datetime.timezone" ++ (if offset = 0 then "." else "") ++ zone ++ ")",
    .ok moment.text, .instant moment.microseconds⟩

/-- A date. -/
def date (date : Date) : Special :=
  ⟨"date", "datetime.date(" ++ ", ".intercalate ([date.year, date.month, date.day].map
    fun field => toString field) ++ ")", .ok date.text, .description⟩

/-- A fraction. -/
def fraction (value : Exact) : Special :=
  let (above, below) := value.ratio?.getD (0, 1)
  ⟨"Fraction", "Fraction(" ++ toString above ++ ", " ++ toString below ++ ")",
    .ok (if below = 1 then toString above else toString above ++ "/" ++ toString below),
    .number (.finite value) .zero⟩

/-- A decimal. -/
def decimal (value : Scaled) : Special :=
  { named "Decimal" value.text with
    sense := .number (.finite (.ofParts value.negative value.coefficient 1 value.exponent
      value.exponent)) .zero }

/-- A floating-point number as a part of a complex one. -/
def partText (value : Binary64) : String :=
  let text := value.text
  if text.endsWith ".0" then (text.dropEnd 2).toString else text

/-- A complex number. -/
def complex (real imaginary : Binary64) : Special :=
  let sign := if imaginary.isNegative ∧ ¬ imaginary.isNaN then "" else "+"
  let text :=
    if real.bits = 0 then partText imaginary ++ "j"
    else "(" ++ partText real ++ sign ++ partText imaginary ++ "j)"
  ⟨"complex", text, .ok text, .number (.ofFloat real) (.ofFloat imaginary)⟩

/-- An identifier of 16 bytes. -/
def identifier (data : Bytes) : Special :=
  let digits := (toHex data).toList
  let part (start size : Nat) := String.ofList ((digits.drop start).take size)
  named "UUID" ("-".intercalate [part 0 8, part 8 4, part 12 4, part 16 4, part 20 12])

/-- The most characters of a pattern that its description shows, its quotes included. -/
def patternLimit : Nat := 200

/-- A pattern. -/
def pattern (text : String) : Special :=
  let shown := "re.compile("
    ++ String.ofList ((Text.quoted text).toList.take patternLimit) ++ ")"
  ⟨"Pattern", shown, .ok shown, .description⟩

/-- A mail message. The host puts it together again to write it, which can fail. -/
def message [Host] (text : String) : Special :=
  ⟨"Message", "<email.message.Message object>", Host.writeMail text, .nothing⟩

/-- An address on a network. -/
def address (address : Network.Address) : Special :=
  named ("IPv" ++ address.version.digit ++ "Address") address.text

/-- An address with the size of its network. -/
def host (address : Network.Address) (size : Nat) : Special :=
  named ("IPv" ++ address.version.digit ++ "Interface") (address.text ++ "/" ++ toString size)

/-- A network. -/
def network (address : Network.Address) (size : Nat) : Special :=
  named ("IPv" ++ address.version.digit ++ "Network") (address.text ++ "/" ++ toString size)

/-- The value that is left undefined. -/
def undefined : Special := ⟨"UndefinedType", "undefined", .ok "undefined", .description⟩

/-- A simple value without a meaning. -/
def simple (number : Nat) : Special :=
  ⟨"CBORSimpleValue", "CBORSimpleValue(" ++ toString number ++ ")",
    .ok (toString number), .simple number⟩

end Special

namespace Cbor

/-- The truth value or integer of a datum as an integer. -/
def integer? : Datum → Option Int
  | .bool value => some (if value then 1 else 0)
  | .int value => some value
  | _ => none

/-- The microseconds of a number of seconds, to the nearest one, with ties to even. -/
def microseconds? : Datum → Option Int
  | .float value =>
    if value.isNaN ∨ value.isInfinite then none
    else
      let (above, below) := Binary64.scaled value.significand 2 value.scale
      let part := Binary64.ofRatio false (above % below * 1000000) below
      let (partAbove, partBelow) := Binary64.scaled part.significand 2 part.scale
      let micros : Int := if above % below = 0 then 0 else Binary64.roundDiv partAbove partBelow
      let size : Int := (above / below : Nat) * 1000000 + micros
      some (if value.isNegative then -size else size)
  | datum => (integer? datum).map (· * 1000000)

/-- The rational number of an item. -/
def numberOf? : Datum → Option Exact
  | .float value =>
    match Extended.ofFloat value with
    | .finite value => some value
    | _ => none
  | .text text => Literal.fraction? text.toList
  | .special ⟨type, _, _, .number (.finite value) _⟩ =>
    if type = "complex" then none else some value
  | datum => (integer? datum).map .ofInt

/-- The rational number of an item that is an integer or a fraction. -/
def rational? : Datum → Option Exact
  | .special ⟨"Fraction", _, _, .number (.finite value) _⟩ => some value
  | datum => (integer? datum).map .ofInt

/-- The quotient of two numbers. -/
def quotient? (left right : Exact) : Option Exact :=
  if right.numerator = 0 then none
  else some (.ofParts (left.negative != right.negative) (left.numerator * right.denominator)
    (left.denominator * right.numerator) (left.twos - right.twos) (left.fives - right.fives))

/-- The fraction made of the items of an array: one number, or a numerator and a denominator. -/
def fraction? : List Datum → Option Exact
  | [] => some (.ofInt 0)
  | [item] | [item, .null] => numberOf? item
  | [above, below] => do quotient? (← rational? above) (← rational? below)
  | _ => none

/-- The complex number of an item. -/
def complexOf? : Datum → Option (Binary64 × Binary64)
  | .float value => some (value, .ofParts false 0 0)
  | datum => (numberOf? datum).bind fun value =>
    value.ratio?.bind fun (above, below) =>
      let nearest := Binary64.ofRatio value.negative above.natAbs below
      if above = 0 then some (.ofParts false 0 0, .ofParts false 0 0)
      else if nearest.isInfinite then none
      else some (nearest, .ofParts false 0 0)

/-- The complex number made of the items of an array: its text, or its two parts. -/
def complex? : List Datum → Option (Binary64 × Binary64)
  | [] => some (.ofParts false 0 0, .ofParts false 0 0)
  | [.text text] => Literal.complex? text.toList
  | [item] => complexOf? item
  | [.text _, _] | [_, .text _] => none
  | [real, imaginary] => do
    let (real, _) ← complexOf? real
    let (imaginary, _) ← complexOf? imaginary
    return (real, imaginary)
  | _ => none

/-- The address of a version that an item stands for: its bytes, its number or its text. -/
def addressOf? (version : Network.Version) (item : Datum) : Option Network.Address :=
  match integer? item, item with
  | some value, _ => Network.Address.ofInt? version value
  | none, .bytes data => Network.Address.ofBytes? version data
  | none, item => Network.Address.read? version item.display.toList

/-- The number of leading bits that an item gives. -/
def sizeOf? (version : Network.Version) (item : Datum) : Option Nat :=
  match integer? item, item with
  | some size, _ => if 0 ≤ size ∧ size ≤ version.bits then some size.toNat else none
  | none, .text text => Network.readSize? version text.toList
  | none, _ => none

/-- The address and the size that two items stand for, in the first version that has both. -/
def placed? (address size : Datum) : Option (Network.Address × Nat) :=
  let within (version : Network.Version) : Option (Network.Address × Nat) := do
    return (← addressOf? version address, ← sizeOf? version size)
  (within .four).or (within .six)

/-- The network that an address and a size name, or the address with its network if it names
more than that. -/
def networkOrHost (address : Network.Address) (size : Nat) : Special :=
  if Network.hostPart address.version size address.value = 0 then .network address size
  else .host address size

/-- What an item stands for that gives an address or a network of a version by its bytes. The
bytes of a network can be cut off after the last that counts. -/
def byVersion? (version : Network.Version) : Datum → Option Special
  | .bytes data => (Network.Address.ofBytes? version data).map .address
  | .tuple [.bytes data, .int size] => do
    let address ← Network.Address.ofBytes? version data
    return .host address (← sizeOf? version (.int size))
  | .tuple [.int size, .bytes data] => do
    let filled := data ++ List.replicate (version.size - data.length) 0
    let address ← Network.Address.ofBytes? version filled
    let size ← sizeOf? version (.int size)
    if Network.hostPart version size address.value = 0 then some (.network address size) else none
  | _ => none

/-- What an item stands for under a tag that is known, if it is of the form that the tag asks
for. -/
def meaning? [Host] (tag : Nat) (item : Datum) : Option Datum :=
  let special (value : Option Special) : Option Datum := value.map .special
  match tag, item with
  | 0, .text text => special ((Moment.read? text.toList).map .moment)
  | 1, item => special ((microseconds? item).bind fun time => (Moment.of? time 0).map .moment)
  | 2, .bytes data => some (.int (beValue data))
  | 3, .bytes data => some (.int (-1 - (beValue data : Int)))
  | 4, .tuple [.int exponent, .int coefficient] =>
    special ((Scaled.of? coefficient exponent).map .decimal)
  | 5, .tuple [.int exponent, .int coefficient] =>
    special ((Scaled.ofBinary? coefficient exponent).map .decimal)
  | 30, .tuple items => special ((fraction? items).map .fraction)
  | 35, .text text =>
    if Text.Pattern.isSound text.toList then special (some (.pattern text)) else none
  | 36, .text text => special (some (.message text))
  | 37, .bytes data => if data.length = 16 then special (some (.identifier data)) else none
  | 52, item => special (byVersion? .four item)
  | 54, item => special (byVersion? .six item)
  | 100, item => special ((integer? item).bind fun day => (Date.ofDay? day).map .date)
  | 260, .bytes data =>
    if data.length = 6 then some (.tagged 260 item)
    else
      let found := (Network.Address.ofBytes? .four data).or (Network.Address.ofBytes? .six data)
      special (found.map .address)
  | 261, .frozenMap [(address, size)] =>
    special ((placed? address size).map fun (address, size) => networkOrHost address size)
  | 1004, .text text => special ((Date.read? text.toList).map .date)
  | 43000, .tuple items =>
    special ((complex? items).map fun (real, imaginary) => .complex real imaginary)
  | 55799, item => some item
  | _, _ => none

/-- The tags that ask for items of a certain form, apart from those that readers keep account
of. -/
def knownTags : List Nat :=
  [0, 1, 2, 3, 4, 5, 30, 35, 36, 37, 52, 54, 100, 260, 261, 1004, 43000, 55799]

/-- What an item under a tag stands for. An item under a tag that is not known is kept with it. -/
def tagged? [Host] (tag : Nat) (item : Datum) : Option Datum :=
  if knownTags.contains tag then meaning? tag item else some (.tagged tag item)

end Cbor

end Finality
