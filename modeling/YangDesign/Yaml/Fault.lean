/-
Why a text yields no value: it is not well formed, or a scalar is not what its tag says.
-/
import YangDesign.Number.Literal
import YangDesign.Text.Coded

namespace YangDesign.Yaml

open Text

/-- why a scalar is no date or point in time -/
inductive MomentFault where
  | year (n : Nat)
  | month
  | day
  | hour
  | minute
  | second
  | offset (seconds : Int)
  deriving DecidableEq, Repr

/-- a span of time as a literal: whole days, and the seconds left -/
def spanLiteral (seconds : Int) : String :=
  let days := seconds / 86400
  let rest := seconds % 86400
  let part (name : String) (n : Int) := if n = 0 then [] else [name ++ "=" ++ toString n]
  let parts := part "days" days ++ part "seconds" rest
  "datetime.timedelta(" ++ (if parts.isEmpty then "0" else ", ".intercalate parts) ++ ")"

/-- wording of a fault in a date or time -/
def MomentFault.message : MomentFault → String
  | .year n => "year " ++ toString n ++ " is out of range"
  | .month => "month must be in 1..12"
  | .day => "day is out of range for month"
  | .hour => "hour must be in 0..23"
  | .minute => "minute must be in 0..59"
  | .second => "second must be in 0..59"
  | .offset seconds =>
    "offset must be a timedelta strictly between -timedelta(hours=24) and timedelta(hours=24), not " ++
      spanLiteral seconds ++ "."

/-- why a text yields no value -/
inductive Fault where
  | malformed
  | beyondCharacters
  | beyondWords
  | notInteger (base : Nat) (text : Coded)
  | tooManyDigits (count : Nat)
  | notNumber (text : Coded)
  | beyondNumbers
  | noDigits
  | notTruth (text : Coded)
  | notMoment
  | noMomentText
  | badMoment (fault : MomentFault)
  | tooDeep
  deriving DecidableEq, Repr

/-- longest quotation of a text that is no integer -/
def quotationLimit : Nat := 200

/-- wording of a fault -/
def Fault.message : Fault → String
  | .malformed => "YAML parsing error"
  | .beyondCharacters => "chr() arg not in range(0x110000)"
  | .beyondWords => "Python int too large to convert to C int"
  | .notInteger base text =>
    "invalid literal for int() with base " ++ toString base ++ ": " ++
      .ofList (text.quoted.toList.take quotationLimit)
  | .tooManyDigits count => Number.digitLimitMessage (": value has " ++ toString count ++ " digits")
  | .notNumber text => "could not convert string to float: " ++ text.quoted
  | .beyondNumbers => "int too large to convert to float"
  | .noDigits => "string index out of range"
  | .notTruth text => text.quoted
  | .notMoment => "'NoneType' object has no attribute 'groupdict'"
  | .noMomentText => "expected string or bytes-like object, got 'list'"
  | .badMoment fault => fault.message
  | .tooDeep => "maximum recursion depth exceeded"

end YangDesign.Yaml
