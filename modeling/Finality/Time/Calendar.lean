/-!
# Dates and times of day

Dates of the Gregorian calendar, counted in days, and points in time with a time of day and an
offset from UTC. There are no leap seconds. The calendar runs from the year 1 to the year
9999; counting itself has no bounds.
-/

namespace Finality

/-- A number with at least `width` digits. -/
def padded (width value : Nat) : String :=
  let digits := (toString value).toList
  String.ofList (List.replicate (width - digits.length) '0' ++ digits)

namespace Calendar

/-- The year, month and day of a day, counted from the first of March of the year zero. Years
are counted from March, so that the day that leap years add is their last. -/
def date (day : Int) : Int × Nat × Nat :=
  let era := day / 146097
  let dayOfEra := (day % 146097).toNat
  let yearOfEra :=
    (dayOfEra - dayOfEra / 1460 + dayOfEra / 36524 - dayOfEra / 146096) / 365
  let dayOfYear := dayOfEra - (365 * yearOfEra + yearOfEra / 4 - yearOfEra / 100)
  let monthFromMarch := (5 * dayOfYear + 2) / 153
  let dayOfMonth := dayOfYear - (153 * monthFromMarch + 2) / 5 + 1
  let month := if monthFromMarch < 10 then monthFromMarch + 3 else monthFromMarch - 9
  let year := yearOfEra + era * 400
  (if month ≤ 2 then year + 1 else year, month, dayOfMonth)

/-- The days from the first of March of the year zero to the start of 1970. -/
def epochDay : Int := 719468

/-- Whether a year has the day that leap years add. -/
def isLeap (year : Nat) : Bool := year % 4 = 0 && (year % 100 ≠ 0 || year % 400 = 0)

/-- The number of days of a month. -/
def daysIn (year month : Nat) : Nat :=
  if month = 2 then (if isLeap year then 29 else 28)
  else if [4, 6, 9, 11].contains month then 30
  else 31

/-- The days from the start of 1970 to a date. -/
def dayOf (year month day : Nat) : Int :=
  let year : Int := if month ≤ 2 then (year : Int) - 1 else year
  let era := year / 400
  let yearOfEra := (year % 400).toNat
  let monthFromMarch := if month ≤ 2 then month + 9 else month - 3
  let dayOfYear := (153 * monthFromMarch + 2) / 5 + day - 1
  era * 146097 + (yearOfEra * 365 + yearOfEra / 4 - yearOfEra / 100 + dayOfYear : Nat) - epochDay

end Calendar

/-- A date of the calendar. -/
structure Date where
  year : Nat
  month : Nat
  day : Nat
deriving DecidableEq

namespace Date

/-- The date with a year, a month and a day, if there is one. -/
def of? (year month day : Nat) : Option Date :=
  if 1 ≤ year ∧ year ≤ 9999 ∧ 1 ≤ month ∧ month ≤ 12 ∧ 1 ≤ day ∧ day ≤ Calendar.daysIn year month
  then some ⟨year, month, day⟩
  else none

/-- The date of a day, counted from the start of 1970. -/
def ofDay? (day : Int) : Option Date :=
  let (year, month, day) := Calendar.date (day + Calendar.epochDay)
  if 0 ≤ year then of? year.toNat month day else none

/-- A date in the form of year, month and day with dashes. -/
def text (date : Date) : String :=
  padded 4 date.year ++ "-" ++ padded 2 date.month ++ "-" ++ padded 2 date.day

/-- Whether a character is an ASCII digit. -/
def isDigit (char : Char) : Bool := '0' ≤ char && char ≤ '9'

/-- The number of some characters, if all of them are digits. -/
def number? (digits : List Char) : Option Nat :=
  if digits.all isDigit then
    some (digits.foldl (fun value digit => 10 * value + (digit.toNat - 48)) 0)
  else none

/-- The number in some places of a text. -/
def numberAt? (start size : Nat) (text : List Char) : Option Nat :=
  let digits := (text.drop start).take size
  if digits.length = size then number? digits else none

/-- The Monday of the first week of a year, which is the week of its first Thursday, as a day
counted from the start of 1970. -/
def firstMonday (year : Nat) : Int :=
  let first := Calendar.dayOf year 1 1
  let weekday := (first + 3) % 7
  if weekday ≤ 3 then first - weekday else first - weekday + 7

/-- The date of a day of a week of a year. -/
def ofWeek? (year week weekday : Nat) : Option Date :=
  if year < 1 ∨ 9999 < year ∨ weekday < 1 ∨ 7 < weekday ∨ week < 1 then none
  else
    let day := firstMonday year + 7 * (week - 1 : Nat)
    if day < firstMonday (year + 1) then ofDay? (day + (weekday - 1 : Nat)) else none

/-- The date of a text: a year and either a month and a day or a week and perhaps its day, with
dashes between all of them or between none. -/
def read? (text : List Char) : Option Date :=
  match numberAt? 0 4 text with
  | none => none
  | some year =>
    let dashed : Bool := text[4]? == some '-'
    let rest := text.drop (if dashed then 5 else 4)
    match rest with
    | 'W' :: week =>
      match numberAt? 0 2 week, dashed, week.drop 2 with
      | some number, _, [] => ofWeek? year number 1
      | some number, true, ['-', day] => (number? [day]).bind (ofWeek? year number)
      | some number, false, [day] => (number? [day]).bind (ofWeek? year number)
      | _, _, _ => none
    | rest =>
      match numberAt? 0 2 rest, dashed, rest.drop 2 with
      | some month, true, '-' :: day =>
        if day.length = 2 then (number? day).bind (of? year month) else none
      | some month, false, day =>
        if day.length = 2 then (number? day).bind (of? year month) else none
      | _, _, _ => none

end Date

/-- A point in time, as it is written at an offset from UTC. -/
structure Moment where
  /-- The microseconds since the start of 1970 in UTC. -/
  microseconds : Int
  /-- The offset in minutes. -/
  offset : Int
  /-- The date at the offset. -/
  date : Date

namespace Moment

/-- The microseconds of a day. -/
def dayLength : Int := 86400000000

/-- The microseconds from midnight, at the offset. -/
def timeOfDay (moment : Moment) : Nat :=
  ((moment.microseconds + moment.offset * 60000000) % dayLength).toNat

/-- The moment at an offset, if the calendar has its date. -/
def of? (microseconds offset : Int) : Option Moment :=
  (Date.ofDay? ((microseconds + offset * 60000000) / dayLength)).map fun date =>
    ⟨microseconds, offset, date⟩

/-- The fraction of a second after its point, in microseconds: further digits do not count. -/
def fraction? (digits : List Char) : Option Nat :=
  if digits.isEmpty then none
  else (Date.number? digits).bind fun _ =>
    Date.number? ((digits ++ List.replicate 6 '0').take 6)

/-- The offset in minutes that a text ends in. -/
def offset? : List Char → Option Int
  | ['Z'] => some 0
  | [sign, hour, hour', ':', minute, minute'] =>
    match sign, Date.number? [hour, hour'], Date.number? [minute, minute'] with
    | '+', some hours, some minutes => some (60 * hours + minutes)
    | '-', some hours, some minutes => some (-(60 * hours + minutes : Int))
    | _, _, _ => none
  | _ => none

/-- The moment of a text: a date and a time of day with an offset of less than a day. -/
def read? (text : List Char) : Option Moment := do
  let number (start : Nat) := Date.numberAt? start 2 text
  let isDigit := Date.isDigit
  let marks := [4, 7, 10, 13, 16].map fun place => text[place]?
  if marks ≠ ['-', '-', 'T', ':', ':'].map some then none
  let date ← Date.of? (← Date.numberAt? 0 4 text) (← number 5) (← number 8)
  let hour ← number 11
  let minute ← number 14
  let second ← number 17
  let (fraction, zone) ←
    match text.drop 19 with
    | '.' :: rest => (fraction? (rest.takeWhile isDigit)).map (·, rest.dropWhile isDigit)
    | zone => some (0, zone)
  let offset ← offset? zone
  if hour < 24 ∧ minute < 60 ∧ second < 60 ∧ offset.natAbs < 24 * 60 then
    let seconds := Calendar.dayOf date.year date.month date.day * 86400
      + (3600 * hour + 60 * minute + second : Nat)
    some ⟨(seconds - 60 * offset) * 1000000 + fraction, offset, date⟩
  else none

/-- The hour, minute, second and microsecond, at the offset. -/
def clock (moment : Moment) : Nat × Nat × Nat × Nat :=
  let time := moment.timeOfDay
  let second := time / 1000000
  (second / 3600, second / 60 % 60, second % 60, time % 1000000)

/-- A moment in text: date, time of day and offset. -/
def text (moment : Moment) : String :=
  let (hour, minute, second, microsecond) := moment.clock
  let fraction := if microsecond = 0 then "" else "." ++ padded 6 microsecond
  let zone := (if moment.offset < 0 then "-" else "+")
    ++ padded 2 (moment.offset.natAbs / 60) ++ ":" ++ padded 2 (moment.offset.natAbs % 60)
  moment.date.text ++ " " ++ padded 2 hour ++ ":" ++ padded 2 minute ++ ":" ++ padded 2 second
    ++ fraction ++ zone

end Moment

end Finality
