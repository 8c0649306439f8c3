/-
The values of scalars by their tags: null, truth values, integers, floats, dates and points in time, bytes and texts.
-/
import YangDesign.Text.Lower
import YangDesign.Value
import YangDesign.Yaml.Fault
import YangDesign.Yaml.Typing

namespace YangDesign.Yaml

open Number Text Time

/-- the text without halves of pairs -/
def textOf? : Coded → Option String
  | .text s => some s
  | .broken _ => none

/-- a text after a change of its characters; a text with halves of pairs only loses what the change drops from it -/
def recoded (f : List Char → List Char) : Coded → Coded
  | .text s => .text (.ofList (f s.toList))
  | .broken codes => .broken (codes.flatMap fun n => match charOf? n with
    | some c => (f [c]).map Char.toNat
    | none => [n])

/-- underscores removed -/
def withoutUnderscores (cs : List Char) : List Char :=
  cs.filter (· != '_')

/-! ## Numbers -/

/-- letters that announce digits of a base after a zero -/
def baseLetters : List (Nat × Char) :=
  [(2, 'b'), (8, 'o'), (16, 'x')]

/-- digits without the announcement of their base -/
def withoutBase (base : Nat) (cs : List Char) : List Char :=
  match cs, baseLetters.lookup base with
  | '0' :: c :: ds, some letter => if c.toLower = letter then ds else cs
  | _, _ => cs

/-- an integer in a base, which may be announced, with a sign and blanks around it; digits may be of any script, and too many
are refused even if other characters follow -/
def readBased (base : Nat) (cs : List Char) : Except Fault Int :=
  let (negative, digits) := takeSign (trimSpace cs)
  let digits := withoutBase base (plainDigits digits)
  let count := (digits.takeWhile fun c => (asciiDigit? base c).isSome).length
  if base = 10 && count > maxIntegerDigits then .error (.tooManyDigits count)
  else match digitsIn? base digits with
    | some (d :: ds) => .ok (signed negative (ofDigits base (d :: ds)))
    | _ => .error (.notInteger base (.text (.ofList cs)))

/-- an integer without its sign -/
def unsignedInteger : List Char → Except Fault Int
  | [] => .error .noDigits
  | ['0'] => .ok 0
  | '0' :: 'b' :: cs => readBased 2 cs
  | '0' :: 'x' :: cs => readBased 16 cs
  | '0' :: cs => readBased 8 ('0' :: cs)
  | cs =>
    if cs.contains ':' then do
      let parts ← (colonParts cs).mapM (readBased 10)
      return parts.foldl (fun n part => n * 60 + part) 0
    else readBased 10 cs

/-- the sign of a number and its digits, without underscores; there must be something -/
def signAndDigits (cs : List Char) : Except Fault (Bool × List Char) :=
  match withoutUnderscores cs with
  | [] => .error .noDigits
  | cs => .ok (takeSign cs)

/-- an integer -/
def integerOf : Coded → Except Fault Value
  | .text s => do
    let (negative, cs) ← signAndDigits s.toList
    let n ← unsignedInteger cs
    return .int (if negative then -n else n)
  | s => .error (.notInteger 10 (recoded (fun cs => (takeSign (withoutUnderscores cs)).2) s))

/-- a float with an optional sign, and blanks around it -/
def readFloat (cs : List Char) : Except Fault Binary64 :=
  let (negative, digits) := takeSign (trimSpace cs)
  match String.ofList digits with
  | "inf" | "infinity" => .ok (.infinity negative)
  | "nan" => .ok .nan
  | _ =>
    match Literal.read? (plainDigits (trimSpace cs)) with
    | some l => .ok (.ofLiteral l)
    | none => .error (.notNumber (.text (.ofList cs)))

/-- the sum of some parts, least first, the first of which counts `unit` times and every further one sixty times as much as
the one before it -/
def sumSixtieths (total : Binary64) (unit : Nat) : List Binary64 → Except Fault Binary64
  | [] => .ok total
  | x :: xs =>
    match Binary64.ofInt unit with
    | .infinity _ => .error .beyondNumbers
    | weight => sumSixtieths (total.add (x.mul weight)) (unit * 60) xs

/-- the positive zero -/
def zero : Binary64 :=
  .ofInt 0

/-- a float -/
def numberOf : Coded → Except Fault Value
  | .text s => do
    let (negative, cs) ← signAndDigits (lower s.toList)
    let x ←
      if cs = ".inf".toList then pure (.infinity false)
      else if cs = ".nan".toList then pure .nan
      else if cs.contains ':' then do
        let parts ← (colonParts cs).mapM readFloat
        sumSixtieths zero 1 parts.reverse
      else readFloat cs
    return .float (x.negateIf negative)
  | s => .error (.notNumber (recoded (fun cs => (takeSign (withoutUnderscores (lower cs))).2) s))

/-! ## Truth values and times -/

/-- a truth value -/
def truthOf (s : Coded) : Except Fault Value :=
  match recoded lower s with
  | .text word =>
    if trueTexts.contains word then .ok (.bool true)
    else if falseTexts.contains word then .ok (.bool false)
    else .error (.notTruth (.text word))
  | s => .error (.notTruth s)

/-- a date that exists -/
def dateOf (t : TimeParts) : Except MomentFault Date :=
  if t.year = 0 then .error (.year t.year)
  else if t.month = 0 || t.month > 12 then .error .month
  else if t.day = 0 || t.day > daysInMonth t.year t.month then .error .day
  else .ok ⟨t.year, t.month, t.day⟩

/-- microseconds from the digits of a fraction of a second, those after the sixth dropped -/
def microseconds (ds : List Nat) : Nat :=
  let ds := ds.take 6
  ofDigits 10 ds * Nat.pow 10 (6 - ds.length)

/-- a point in time that exists -/
def stampOf (t : TimeParts) (c : ClockParts) : Except MomentFault Stamp := do
  match c.offset with
  | some o => if o ≤ -86400 || 86400 ≤ o then throw (.offset o)
  | none => pure ()
  let date ← dateOf t
  if c.hour > 23 then throw .hour
  if c.minute > 59 then throw .minute
  if c.second > 59 then throw .second
  return ⟨date, c.hour, c.minute, c.second, microseconds c.fraction, c.offset⟩

/-- a date or a point in time -/
def timeOf (s : Coded) : Except Fault Value :=
  match textOf? s >>= fun s => readTime? (withoutLastBreak s.toList) with
  | none => .error .notMoment
  | some t =>
    match t.clock with
    | none => ((dateOf t).map Value.date).mapError .badMoment
    | some c => ((stampOf t c).map Value.stamp).mapError .badMoment

/-! ## Bytes -/

/-- six bits of a character -/
def sixBits? (c : Char) : Option Nat :=
  if c.isUpper then some (c.toNat - 65)
  else if c.isLower then some (c.toNat - 71)
  else if c.isDigit then some (c.toNat + 4)
  else if c = '+' then some 62
  else if c = '/' then some 63
  else none

/-- bytes of groups of four characters, where `place` characters of a group were read and `pads` fillers in a row; characters
without a value are passed over, and the fillers that complete a group end the text -/
def binaryBytes (bits place pads : Nat) : List Char → Option (List UInt8)
  | [] => if place = 0 then some [] else none
  | c :: cs =>
    if c = '=' then
      if place ≥ 2 && place + pads + 1 ≥ 4 then some [] else binaryBytes bits place (if place ≥ 2 then pads + 1 else pads) cs
    else
      match sixBits? c with
      | none => binaryBytes bits place pads cs
      | some v =>
        let bits := bits * 64 + v
        match place with
        | 0 => binaryBytes bits 1 0 cs
        | 1 => (binaryBytes (bits % 16) 2 0 cs).map (UInt8.ofNat (bits / 16) :: ·)
        | 2 => (binaryBytes (bits % 4) 3 0 cs).map (UInt8.ofNat (bits / 4) :: ·)
        | _ => (binaryBytes 0 0 0 cs).map (UInt8.ofNat bits :: ·)

/-- bytes written as ASCII text -/
def binaryOf (s : Coded) : Except Fault Value :=
  let cs := (s.codes.filter (· < 128)).map Char.ofNat
  match if cs.length = s.codes.length then binaryBytes 0 0 0 cs else none with
  | some bs => .ok (.bytes bs)
  | none => .error .malformed

/-- the value of a scalar; the tags of collections and of keys have none -/
def scalarValue (tag : Tag) (s : Coded) : Except Fault Value :=
  match tag with
  | .null => .ok .null
  | .truth => truthOf s
  | .integer => integerOf s
  | .number => numberOf s
  | .text => .ok (.ofCoded s)
  | .binary => binaryOf s
  | .time => timeOf s
  | .merge | .value | .sequence | .mapping | .orderedMapping | .pairs | .set | .other => .error .malformed

end YangDesign.Yaml
