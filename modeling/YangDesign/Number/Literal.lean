/-
Numbers as they are written: integers with grouping underscores and decimal literals with a point and an exponent.

`readInteger` and `plainDigits` take decimal digits of every script; `Literal.read?` works on ASCII digits.
-/
import YangDesign.Text.Blank
import YangDesign.Text.Numeral

namespace YangDesign.Number

open Text

/-- the number a list of digits stands for -/
def ofDigits (base : Nat) (ds : List Nat) : Nat :=
  ds.foldl (fun n d => n * base + d) 0

/-- an optional sign, and what follows it; true for minus -/
def takeSign : List Char → Bool × List Char
  | '-' :: cs => (true, cs)
  | '+' :: cs => (false, cs)
  | cs => (false, cs)

/-- the integer with a sign and a magnitude -/
def signed (negative : Bool) (n : Nat) : Int :=
  if negative then -(n : Int) else n

/-- digits with single underscores between them; `afterDigit` tells whether a digit stands directly before -/
def groupedDigits (value? : Char → Option Nat) (afterDigit : Bool) : List Char → Option (List Nat)
  | [] => if afterDigit then some [] else none
  | '_' :: cs => if afterDigit then groupedDigits value? false cs else none
  | c :: cs => do
    let d ← value? c
    let ds ← groupedDigits value? true cs
    return d :: ds

/-- number of digits above which an integer is neither read nor written -/
def maxIntegerDigits : Nat := 4300

/-- wording for an integer that has too many digits to be read or written -/
def digitLimitMessage (detail : String) : String :=
  "Exceeds the limit (" ++ toString maxIntegerDigits ++ " digits) for integer string conversion" ++ detail ++
    "; use sys.set_int_max_str_digits() to increase the limit"

/-- an integer in decimal digits of any script: white space around it, an optional sign, single underscores between digits -/
def readInteger (s : String) : Option Int := do
  let (negative, cs) := takeSign (trimSpace s.toList)
  let ds ← groupedDigits digitValue? false cs
  if ds.length ≤ maxIntegerDigits then some (signed negative (ofDigits 10 ds)) else none

/-- ASCII digit value in a base up to sixteen -/
def asciiDigit? (base : Nat) (c : Char) : Option Nat :=
  let v :=
    if c.isDigit then c.toNat - 48
    else if 'a' ≤ c && c ≤ 'f' then c.toNat - 87
    else if 'A' ≤ c && c ≤ 'F' then c.toNat - 55
    else base
  if v < base then some v else none

/-- the digits of a base, all of them -/
def digitsIn? (base : Nat) (cs : List Char) : Option (List Nat) :=
  cs.mapM (asciiDigit? base)

/-- a decimal literal: digits before and after the point and a power of ten -/
structure Literal where
  negative : Bool
  whole : List Nat
  fraction : List Nat
  exponent : Int
  deriving DecidableEq, Repr

/-- leading ASCII digits and the rest -/
def spanDigits : List Char → List Nat × List Char
  | [] => ([], [])
  | c :: cs =>
    match asciiDigit? 10 c with
    | some d => let (ds, rest) := spanDigits cs; (d :: ds, rest)
    | none => ([], c :: cs)

/-- the part of a literal after its digits: nothing, or an exponent with at least one digit -/
def readExponent : List Char → Option Int
  | [] => some 0
  | c :: cs =>
    if c = 'e' || c = 'E' then
      let (negative, cs) := takeSign cs
      match spanDigits cs with
      | ([], _) => none
      | (ds, []) => some (signed negative (ofDigits 10 ds))
      | _ => none
    else none

/-- `[sign] digits [. digits] [e [sign] digits]`, with a digit before or after the point -/
def Literal.read? (cs : List Char) : Option Literal :=
  let (negative, cs) := takeSign cs
  let (whole, cs) := spanDigits cs
  let (fraction, cs) := match cs with
    | '.' :: cs => spanDigits cs
    | cs => ([], cs)
  if whole.isEmpty && fraction.isEmpty then none
  else (readExponent cs).map fun exponent => ⟨negative, whole, fraction, exponent⟩

/-- all digits of a literal as one number -/
def Literal.coefficient (l : Literal) : Nat :=
  ofDigits 10 (l.whole ++ l.fraction)

/-- the power of ten that belongs to the last digit -/
def Literal.scale (l : Literal) : Int :=
  l.exponent - l.fraction.length

/-- decimal digits of any script written in ASCII, everything else kept -/
def plainDigits (cs : List Char) : List Char :=
  cs.map fun c => match digitValue? c with
    | some d => Char.ofNat (48 + d)
    | none => c

end YangDesign.Number
