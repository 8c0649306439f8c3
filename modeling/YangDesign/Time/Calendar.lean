/-
Dates of the Gregorian calendar, extended to all years, and points in time counted in seconds from 1970-01-01T00:00:00Z.

`Date.dayNumber` and `Date.ofDayNumber` convert between a date and its distance in days from 1970-01-01; years are taken to
begin in March, so that the leap day is the last day of a year.
-/
import YangDesign.Text.Numeral

namespace YangDesign.Time

open Text

/-- a calendar date -/
structure Date where
  year : Nat
  month : Nat
  day : Nat
  deriving DecidableEq, Repr

/-- whether a year has a 29th of February -/
def isLeapYear (y : Nat) : Bool :=
  y % 4 == 0 && (y % 100 != 0 || y % 400 == 0)

/-- number of days of a month; none for a month that does not exist -/
def daysInMonth (y m : Nat) : Nat :=
  match m with
  | 1 | 3 | 5 | 7 | 8 | 10 | 12 => 31
  | 4 | 6 | 9 | 11 => 30
  | 2 => if isLeapYear y then 29 else 28
  | _ => 0

namespace Date

/-- days from 1970-01-01 -/
def dayNumber (d : Date) : Int :=
  let y : Int := if d.month ≤ 2 then d.year - 1 else d.year
  let era := y / 400
  let yearOfEra := y % 400
  let monthFromMarch : Int := if d.month ≤ 2 then d.month + 9 else d.month - 3
  let dayOfYear := (153 * monthFromMarch + 2) / 5 + d.day - 1
  let dayOfEra := yearOfEra * 365 + yearOfEra / 4 - yearOfEra / 100 + dayOfYear
  era * 146097 + dayOfEra - 719468

/-- the date a number of days from 1970-01-01 -/
def ofDayNumber (n : Int) : Date :=
  let z := n + 719468
  let era := z / 146097
  let dayOfEra := z % 146097
  let yearOfEra := (dayOfEra - dayOfEra / 1460 + dayOfEra / 36524 - dayOfEra / 146096) / 365
  let dayOfYear := dayOfEra - (365 * yearOfEra + yearOfEra / 4 - yearOfEra / 100)
  let monthFromMarch := (5 * dayOfYear + 2) / 153
  let day := dayOfYear - (153 * monthFromMarch + 2) / 5 + 1
  let month := if monthFromMarch < 10 then monthFromMarch + 3 else monthFromMarch - 9
  let year := yearOfEra + era * 400 + (if month ≤ 2 then 1 else 0)
  ⟨year.toNat, month.toNat, day.toNat⟩

/-- `YYYY-MM-DD` -/
def text (d : Date) : String :=
  padded 4 d.year ++ "-" ++ padded 2 d.month ++ "-" ++ padded 2 d.day

end Date

/-- a date and a time of day, with the distance from UTC in seconds if it is known -/
structure Stamp where
  date : Date
  hour : Nat
  minute : Nat
  second : Nat
  microsecond : Nat
  offset : Option Int
  deriving DecidableEq, Repr

namespace Stamp

/-- `HH:MM:SS` -/
def clock (hour minute second : Nat) : String :=
  padded 2 hour ++ ":" ++ padded 2 minute ++ ":" ++ padded 2 second

/-- a distance from UTC as `+HH:MM`, with seconds if there are any -/
def offsetText (o : Int) : String :=
  let n := o.natAbs
  (if o < 0 then "-" else "+") ++ padded 2 (n / 3600) ++ ":" ++ padded 2 (n / 60 % 60) ++
    (if n % 60 = 0 then "" else ":" ++ padded 2 (n % 60))

/-- `YYYY-MM-DDTHH:MM:SS`, with microseconds and the distance from UTC where there are any -/
def text (t : Stamp) : String :=
  t.date.text ++ "T" ++ clock t.hour t.minute t.second ++
    (if t.microsecond = 0 then "" else "." ++ padded 6 t.microsecond) ++
    (t.offset.map offsetText).getD ""

/-- seconds from 1970-01-01T00:00:00Z, a stamp without a distance from UTC taken as UTC -/
def seconds (t : Stamp) : Int :=
  t.date.dayNumber * 86400 + t.hour * 3600 + t.minute * 60 + t.second - t.offset.getD 0

end Stamp

/-- the first second of year 1 -/
def firstSecond : Int := -62135596800

/-- the last second of year 9999 -/
def lastSecond : Int := 253402300799

/-- `Y-MM-DDTHH:MM:SSZ` for seconds from 1970-01-01T00:00:00Z; the year has no more digits than it needs -/
def utcText (seconds : Int) : String :=
  let date := Date.ofDayNumber (seconds / 86400)
  let rest := (seconds % 86400).toNat
  toString date.year ++ "-" ++ padded 2 date.month ++ "-" ++ padded 2 date.day ++ "T" ++ Stamp.clock (rest / 3600) (rest / 60 % 60) (rest % 60) ++ "Z"

end YangDesign.Time
