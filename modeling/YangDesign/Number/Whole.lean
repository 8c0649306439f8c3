/-
Integers as settings admit them: decimal digits of ASCII with an optional sign, leading zeros, single underscores between
digits, and a point with nothing but zeros after it.
-/
import YangDesign.Number.Literal

namespace YangDesign.Number

/-- outcome of reading an integer -/
inductive Whole where
  | value (i : Int)
  | tooLong
  | unreadable
  deriving DecidableEq, Repr

/-- an integer of ASCII digits without a superfluous zero in front, after an optional minus sign; more characters than
`maxIntegerDigits`, the sign among them, are too many even if other characters follow -/
def plainWhole (cs : List Char) : Whole :=
  let (negative, ds) := match cs with
    | '-' :: ds => (true, ds)
    | ds => (false, ds)
  let (digits, rest) := spanDigits ds
  if digits.head? == some 0 then (if digits.length == 1 && rest.isEmpty then .value 0 else .unreadable)
  else if digits.length + (if negative then 1 else 0) > maxIntegerDigits then .tooLong
  else if digits.isEmpty || !rest.isEmpty then .unreadable
  else .value (signed negative (ofDigits 10 digits))

/-- what follows zeros and underscores: a minus sign or a digit that is not zero with all after it, a point with a zero
before it, or the last of them if there is nothing else -/
def afterZeros (last : Char) : List Char → Option (List Char)
  | [] => some [last]
  | c :: cs =>
    if c = '0' || c = '_' then afterZeros c cs
    else if c = '.' then some (last :: c :: cs)
    else if c = '-' || c.isDigit then some (c :: cs)
    else none

/-- digits without leading zeros; anything that starts otherwise than with a digit is refused -/
def dropLeadingZeros : List Char → Option (List Char)
  | [] => none
  | c :: cs =>
    if c = '0' then afterZeros c cs
    else if c.isDigit then some (c :: cs)
    else none

/-- a point and zeros removed from the end -/
def dropZeroFraction (cs : List Char) : List Char :=
  match cs.dropWhile (· != '.') with
  | _ :: zeros => if !zeros.isEmpty && zeros.all (· == '0') then cs.takeWhile (· != '.') else cs
  | [] => cs

/-- whether two underscores stand side by side -/
def hasDoubleUnderscore : List Char → Bool
  | '_' :: '_' :: _ => true
  | _ :: cs => hasDoubleUnderscore cs
  | [] => false

/-- underscores removed, if none stands first, last or beside another -/
def dropUnderscores (cs : List Char) : List Char :=
  if cs.head? == some '_' || cs.getLast? == some '_' || hasDoubleUnderscore cs then cs
  else cs.filter (· != '_')

/-- an integer from its text -/
def readWhole (s : String) : Whole :=
  match plainWhole s.toList with
  | .value i => .value i
  | .tooLong => .tooLong
  | .unreadable =>
    let (negative, cs) := takeSign (Text.trimSpace s.toList)
    match dropLeadingZeros cs with
    | none => .unreadable
    | some cs =>
      let cs := dropUnderscores (dropZeroFraction cs)
      match plainWhole (if negative then '-' :: cs else cs) with
      | .value i => .value i
      | _ => .unreadable

end YangDesign.Number
