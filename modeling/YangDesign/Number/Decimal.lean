/-
Decimal numbers that keep their digits: a sign, a coefficient and a power of ten, so that 1.5 and 1.50 are told apart.

Digits, leading zeros apart, and exponents are limited, and so are the digits after the point in a text that is read.
`Decimal.scientific` shows every digit and uses an exponent for a positive power of ten or a value below 10^-6;
`Decimal.plainText` never uses an exponent, and may so have too many digits to be read. `Decimal.read?` is the reader.
-/
import YangDesign.Number.Literal
import YangDesign.Text.Numeral

namespace YangDesign.Number

open Text

/-- a decimal number, an infinity or a not-a-number with its payload -/
inductive Decimal where
  | finite (negative : Bool) (coefficient : Nat) (exponent : Int)
  | infinity (negative : Bool)
  | nan (negative signaling : Bool) (payload : Nat)
  deriving DecidableEq, Repr

namespace Decimal

/-- largest number of digits -/
def maxDigits : Nat := 999999999999999999

/-- largest exponent of the leading digit -/
def maxExponent : Int := 999999999999999999

/-- smallest exponent of the last digit -/
def minExponent : Int := -1999999999999999997

/-- number of digits without leading zeros -/
def digitCount (n : Nat) : Nat :=
  (Nat.toDigits 10 n).length

/-- a literal within the limits, of which those for exponents hold for a zero too -/
def ofLiteral? (l : Literal) : Option Decimal :=
  let digits := digitCount l.coefficient
  let adjusted := l.scale + (digits - 1 : Nat)
  if digits > maxDigits || l.fraction.length > maxDigits then none
  else if adjusted > maxExponent || l.scale < minExponent then none
  else some (.finite l.negative l.coefficient l.scale)

/-- a not-a-number with the payload that some digits stand for -/
def ofPayload? (negative signaling : Bool) (cs : List Char) : Option Decimal := do
  let payload := ofDigits 10 (← digitsIn? 10 cs)
  if digitCount payload > maxDigits then none else some (.nan negative signaling payload)

/-- `inf`, `infinity`, `nan` and `snan` in lower case, a not-a-number with digits after it -/
def ofWord? (negative : Bool) (cs : List Char) : Option Decimal :=
  if cs = ['i', 'n', 'f'] || cs = "infinity".toList then some (.infinity negative)
  else match cs with
    | 'n' :: 'a' :: 'n' :: ds => ofPayload? negative false ds
    | 's' :: 'n' :: 'a' :: 'n' :: ds => ofPayload? negative true ds
    | _ => none

/-- a decimal: blanks around it and underscores are dropped, digits may be of any script -/
def read? (s : String) : Option Decimal :=
  let cs := plainDigits ((trimBlank s.toList).filter (· != '_'))
  match Literal.read? cs with
  | some l => ofLiteral? l
  | none =>
    let (negative, cs) := takeSign cs
    ofWord? negative (cs.map Char.toLower)

/-- minus sign -/
def sign (negative : Bool) : List Char :=
  if negative then ['-'] else []

/-- the digits of `n` with a point before the last `places` of them -/
def withPoint (n places : Nat) : List Char :=
  let ds := padStart (places + 1) '0' (Nat.toDigits 10 n)
  ds.take (ds.length - places) ++ '.' :: ds.drop (ds.length - places)

/-- an infinity or a not-a-number -/
def special : Decimal → List Char
  | .finite .. => []
  | .infinity negative => sign negative ++ "Infinity".toList
  | .nan negative signaling payload =>
    sign negative ++ (if signaling then "sNaN".toList else "NaN".toList) ++
      (if payload = 0 then [] else Nat.toDigits 10 payload)

/-- the first digit, and the others after a point -/
def leadingPoint : List Char → List Char
  | d :: d' :: ds => d :: '.' :: d' :: ds
  | ds => ds

/-- all digits; an exponent for a positive power of ten or a value below 10^-6 -/
def scientific : Decimal → String
  | .finite negative n e =>
    let ds := Nat.toDigits 10 n
    let adjusted := e + (ds.length - 1 : Nat)
    .ofList <| sign negative ++
      if e ≤ 0 && -6 ≤ adjusted then
        if e = 0 then ds else withPoint n (-e).toNat
      else
        leadingPoint ds ++ 'E' :: (if adjusted < 0 then '-' else '+') :: Nat.toDigits 10 adjusted.natAbs
  | d => .ofList d.special

/-- all digits and never an exponent -/
def plainText : Decimal → String
  | .finite negative n e =>
    .ofList <| sign negative ++
      if e < 0 then withPoint n (-e).toNat
      else if n = 0 then ['0']
      else Nat.toDigits 10 n ++ List.replicate e.toNat '0'
  | d => .ofList d.special

end Decimal

end YangDesign.Number
