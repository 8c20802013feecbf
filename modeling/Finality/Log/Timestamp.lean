import Finality.Bytes.Endian
import Finality.Time.Calendar

/-!
# Timestamps of log records

A point in time is the number of seconds since the start of 1970, without leap seconds,
and is written as a date of the Gregorian calendar and a time of day in UTC.
-/

namespace Finality

/-- A point in time, to the millisecond. -/
structure Timestamp where
  seconds : Int
  milliseconds : Int

/-- Why a point in time has no text. -/
inductive TimestampFault where
  /-- Eight bytes do not hold the seconds. -/
  | seconds
  /-- Four bytes do not hold the years since 1900. -/
  | years
  /-- Four bytes do not hold the year. -/
  | year

/-- The text of a fault, where it has one. -/
def TimestampFault.message? : TimestampFault → Option String
  | seconds => some "timestamp out of range for platform time_t"
  | years => none
  | year => some "signed integer is greater than maximum"

namespace Timestamp

/-- Whether a number of bytes hold an integer and its sign. -/
def holds (width : Nat) (value : Int) : Bool :=
  -(capacity width / 2 : Nat) ≤ value && value < (capacity width / 2 : Nat)

/-- Why a timestamp has no text, if it has none. -/
def fault? (timestamp : Timestamp) : Option TimestampFault :=
  let (year, _, _) := Calendar.date (timestamp.seconds / 86400 + Calendar.epochDay)
  if !holds 8 timestamp.seconds then some .seconds
  else if !holds 4 (year - 1900) then some .years
  else if !holds 4 year then some .year
  else none

/-- A number of at least three digits, zeros filling it after the sign. -/
def paddedThousands (value : Int) : String :=
  if value < 0 then "-" ++ padded 2 value.natAbs else padded 3 value.toNat

/-- A timestamp in the form of date, `T`, time of day and `Z`. -/
def text (timestamp : Timestamp) : String :=
  let (year, month, day) := Calendar.date (timestamp.seconds / 86400 + Calendar.epochDay)
  let second := (timestamp.seconds % 86400).toNat
  toString year ++ "-" ++ padded 2 month ++ "-" ++ padded 2 day ++ "T"
    ++ padded 2 (second / 3600) ++ ":" ++ padded 2 (second / 60 % 60) ++ ":"
    ++ padded 2 (second % 60) ++ "." ++ paddedThousands timestamp.milliseconds ++ "Z"

end Timestamp

end Finality
