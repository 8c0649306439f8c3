/-
Points in time as they are written in settings: a date, a date with a time of day and a distance from UTC, or a number of
seconds from 1970-01-01T00:00:00Z, which counts milliseconds when it is large.

A number with a fraction is rounded to microseconds before it is cut to seconds. A text that is no point in time is reported as
a date: the report says why the text is not one.
-/
import YangDesign.Number.Binary64
import YangDesign.Time.Calendar

namespace YangDesign.Time

open Number

/-- why a text is not a date -/
inductive DateFault where
  | tooShort
  | yearDigits
  | separator
  | monthDigits
  | dayDigits
  | monthRange
  | dayRange
  | trailing
  | tooEarly
  | tooLate
  | yearZero
  deriving DecidableEq, Repr

/-- wording of a date fault -/
def DateFault.message : DateFault → String
  | .tooShort => "input is too short"
  | .yearDigits => "invalid character in year"
  | .separator => "invalid date separator, expected \x60-\x60"
  | .monthDigits => "invalid character in month"
  | .dayDigits => "invalid character in day"
  | .monthRange => "month value is outside expected range of 1-12"
  | .dayRange => "day value is outside expected range"
  | .trailing => "unexpected extra characters at the end of the input"
  | .tooEarly => "dates before 0000 are not supported as unix timestamps"
  | .tooLate => "dates after 9999 are not supported as unix timestamps"
  | .yearZero => "year 0 is out of range"

/-- exactly `n` ASCII digits, as a number, and the rest -/
def takeDigits : Nat → List Char → Option (Nat × List Char)
  | n, cs =>
    let ds := cs.take n
    if ds.length = n && ds.all Char.isDigit then
      (digitsIn? 10 ds).map fun ds => (ofDigits 10 ds, cs.drop n)
    else none

/-- a date at the start of a text, and the rest -/
def readDate (s : String) : Except DateFault (Date × List Char) := do
  if s.utf8ByteSize < 10 then throw .tooShort
  let some (year, cs) := takeDigits 4 s.toList | throw .yearDigits
  let '-' :: cs := cs | throw .separator
  let some (month, cs) := takeDigits 2 cs | throw .monthDigits
  let '-' :: cs := cs | throw .separator
  let some (day, cs) := takeDigits 2 cs | throw .dayDigits
  if month = 0 || month > 12 then throw .monthRange
  if day = 0 || day > daysInMonth year month then throw .dayRange
  return (⟨year, month, day⟩, cs)

/-- digits after the decimal mark of a second: at least one -/
def skipFraction : List Char → Option (List Char)
  | c :: cs =>
    if c = '.' || c = ',' then
      if (cs.takeWhile Char.isDigit).isEmpty then none else some (cs.dropWhile Char.isDigit)
    else some (c :: cs)
  | [] => some []

/-- `HH:MM[:SS[.f]]` as seconds of the day, and the rest -/
def readClock (cs : List Char) : Option (Nat × List Char) := do
  let (hour, cs) ← takeDigits 2 cs
  let (':' :: cs) := cs | none
  let (minute, cs) ← takeDigits 2 cs
  guard (hour ≤ 23 && minute ≤ 59)
  match cs with
  | ':' :: cs =>
    let (second, cs) ← takeDigits 2 cs
    guard (second ≤ 59)
    let cs ← skipFraction cs
    return (hour * 3600 + minute * 60 + second, cs)
  | cs => return (hour * 3600 + minute * 60, cs)

/-- `HH:MM` or `HHMM` after a sign, below one day, in seconds -/
def readOffset (cs : List Char) : Option Nat := do
  let (hours, cs) ← takeDigits 2 cs
  let cs := match cs with
    | ':' :: cs => cs
    | cs => cs
  let (minutes, cs) ← takeDigits 2 cs
  guard (cs.isEmpty && minutes ≤ 59 && hours ≤ 23)
  return hours * 3600 + minutes * 60

/-- nothing, `Z`, or a signed distance from UTC -/
def readZone : List Char → Option Int
  | [] => some 0
  | c :: cs =>
    if c = 'Z' || c = 'z' then (if cs.isEmpty then some 0 else none)
    else if c = '+' then (readOffset cs).map fun n => (n : Int)
    else if c = '-' || c = '\u2212' then (readOffset cs).map fun n => -(n : Int)
    else none

/-- a date, a separator and a time of day: seconds of the local clock and the distance from UTC -/
def readDateTime? (s : String) : Option (Date × Nat × Int) :=
  match readDate s with
  | .error _ => none
  | .ok (date, cs) =>
    match cs with
    | sep :: cs =>
      if sep = 'T' || sep = 't' || sep = ' ' || sep = '_' then do
        let (clock, cs) ← readClock cs
        let offset ← readZone cs
        return (date, clock, offset)
      else none
    | [] => none

/-- counts above this magnitude are milliseconds -/
def millisecondsAbove : Nat := 20000000000

/-- the first second of year 0 -/
def earliestCounted : Int := -62167219200

/-- a count of seconds or milliseconds, as seconds -/
def ofCount (n : Int) : Except DateFault Int :=
  let seconds := if n.natAbs > millisecondsAbove then n / 1000 else n
  if seconds < earliestCounted then .error .tooEarly
  else if seconds > lastSecond then .error .tooLate
  else .ok seconds

/-- a number of seconds or milliseconds, as seconds with the microseconds rounded to the nearest and then left out -/
def ofFloat (x : Binary64) : Except DateFault Int :=
  let isLarge : Bool := match x with
    | .finite _ m e => millisecondsAbove * (Binary64.ratio m e).2 < (Binary64.ratio m e).1
    | _ => true
  let x := if isLarge then x.divNat 1000 else x
  match x with
  | .finite .. =>
    let seconds := (x.floor?).getD 0
    let fraction := x.add (.ofInt (-seconds))
    let microseconds := (fraction.mul (.ofInt 1000000)).roundHalfUp
    (ofCount seconds).map (· + microseconds / 1000000)
  | .infinity negative => ofCount (if negative then -Int.pow 2 63 else Int.pow 2 63)
  | .nan => ofCount 0

/-- a number as it may stand for a point in time: an integer, or a number with a decimal point -/
inductive Count where
  | whole (n : Int)
  | fractional (x : Binary64)
  deriving DecidableEq, Repr

/-- integers from this one on are not read -/
def countLimit : Nat := Nat.pow 2 63

/-- a number in decimal digits with an optional sign; after a point it may have an exponent -/
def readCount? (s : String) : Option Count := do
  let (negative, cs) := takeSign s.toList
  let (digits, rest) := spanDigits cs
  let n := ofDigits 10 digits
  guard (n < countLimit)
  match rest with
  | [] => if digits.isEmpty then none else some (.whole (signed negative n))
  | '.' :: _ => (Literal.read? s.toList).map fun l => .fractional (.ofLiteral l)
  | _ => none

/-- a point in time before it is brought to UTC: seconds of the local clock, and the distance from UTC -/
structure Reading where
  date : Date
  clock : Nat
  offset : Int
  deriving DecidableEq, Repr

/-- seconds from 1970-01-01T00:00:00Z -/
def Reading.seconds (r : Reading) : Int :=
  r.date.dayNumber * 86400 + r.clock - r.offset

/-- a count of seconds as a reading in UTC -/
def Reading.ofSeconds (n : Int) : Reading :=
  ⟨.ofDayNumber (n / 86400), (n % 86400).toNat, 0⟩

/-- a point in time from its text -/
def readMoment (s : String) : Except DateFault Reading :=
  match readDateTime? s with
  | some (date, clock, offset) => .ok ⟨date, clock, offset⟩
  | none =>
    let asDate : Except DateFault Reading := do
      let (date, rest) ← readDate s
      if rest.isEmpty then .ok ⟨date, 0, 0⟩ else .error .trailing
    match readCount? s with
    | some (.whole n) => (ofCount n).map .ofSeconds
    | some (.fractional x) =>
      match ofFloat x with
      | .ok n => .ok (.ofSeconds n)
      | .error _ => asDate
    | none => asDate

end YangDesign.Time
