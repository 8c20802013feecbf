import Finality.Config.Basic
import Finality.Number.Integer

/-!
# Durations

A duration is written as decimal digits and a unit, with blanks around both, as in `250ms`
or `14 d`; without a unit it is in seconds. Units are recognised in any letter case, where
the long s counts as a form of the letter s, but a unit written with the long s names no
length.
-/

namespace Finality

/-- A unit of time. -/
inductive TimeUnit where
  | nanosecond
  | microsecond
  | millisecond
  | second
  | minute
  | hour
  | day
deriving DecidableEq

namespace TimeUnit

/-- All units. -/
def all : List TimeUnit :=
  [nanosecond, microsecond, millisecond, second, minute, hour, day]

/-- How a unit is written. -/
def symbol : TimeUnit → String
  | nanosecond => "ns"
  | microsecond => "us"
  | millisecond => "ms"
  | second => "s"
  | minute => "m"
  | hour => "h"
  | day => "d"

/-- The nanoseconds of a unit. -/
def nanoseconds : TimeUnit → Nat
  | nanosecond => 1
  | microsecond => 1000
  | millisecond => 1000000
  | second => nanosPerSecond
  | minute => 60 * nanosPerSecond
  | hour => 3600 * nanosPerSecond
  | day => 86400 * nanosPerSecond

/-- The unit with a symbol. -/
def ofSymbol? (symbol : String) : Option TimeUnit :=
  all.find? fun unit => unit.symbol = symbol

end TimeUnit

/-- Why a text is no duration. -/
inductive DurationFault where
  | malformed (text : String)
  | number (fault : IntegerFault) (digits : String)
  | longS

/-- The text of a fault, where it has one. -/
def DurationFault.message? : DurationFault → Option String
  | malformed text => some ("unparseable duration " ++ Text.quoted text)
  | number fault digits => some (fault.message (digits.toList.map Char.toNat))
  | longS => none

namespace Duration

/-- The long s. -/
def longS : Char := Char.ofNat 0x17f

/-- A character of a unit in lower case, with the long s as an s. -/
def unitChar (char : Char) : Char := if char = longS then 's' else char.toLower

/-- Whether a character is a decimal digit of any script. -/
def isDigit (char : Char) : Bool := (Text.digitValue? char).isSome

/-- The unit that characters without blanks around them stand for. -/
def unitOf (text : String) (chars : List Char) : Except DurationFault TimeUnit :=
  if chars.isEmpty then .ok .second
  else
    match TimeUnit.ofSymbol? (String.ofList (chars.map unitChar)) with
    | none => .error (.malformed text)
    | some unit => if chars.contains longS then .error .longS else .ok unit

/-- The nanoseconds that a text stands for. A text that is no duration at all is refused
before its digits are counted, and these before the unit is looked up. -/
def read (text : String) : Except DurationFault Nat :=
  let chars := Text.trim Text.isBlank text.toList
  let digits := chars.takeWhile isDigit
  let unit := unitOf text ((chars.dropWhile isDigit).dropWhile Text.isBlank)
  if digits.isEmpty then .error (.malformed text)
  else
    match unit, Integer.read .decimal digits with
    | .error (.malformed text), _ => .error (.malformed text)
    | _, .error fault => .error (.number fault (String.ofList digits))
    | .error fault, _ => .error fault
    | .ok unit, .ok value => .ok (value.toNat * unit.nanoseconds)

end Duration

end Finality
