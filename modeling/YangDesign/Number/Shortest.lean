/-
The shortest decimal text of a double.

`shortest` finds the fewest digits that read back as the same double, and among those the nearest to it. The reals that read
back as a positive double form an interval around it, closed exactly if its significand is even; a grid of decimals that
meets the interval meets it in one of the two neighbours of the double on that grid, so two candidates per length are enough.

`Binary64.text` writes the digits positionally for values from 10^-4 up to 10^16 and with an exponent otherwise.
-/
import YangDesign.Number.Binary64
import YangDesign.Text.Numeral

namespace YangDesign.Number

open Text

/-- an interval of positive rationals over one denominator, with the point it surrounds -/
structure Interval where
  low : Nat
  point : Nat
  high : Nat
  den : Nat
  closed : Bool
  deriving DecidableEq, Repr

namespace Interval

/-- the reals that round to the double with significand `m` and exponent `e` -/
def around (m : Nat) (e : Int) : Interval :=
  let below := if m = Nat.pow 2 52 && e > Binary64.minExponent then 1 else 2
  let (unit, den) := Binary64.ratio 1 (e - 2)
  ⟨(4 * m - below) * unit, 4 * m * unit, (4 * m + 2) * unit, den, m % 2 == 0⟩

/-- whether `num / den` lies in the interval -/
def has (i : Interval) (num den : Nat) : Bool :=
  if i.closed then i.low * den ≤ num * i.den && num * i.den ≤ i.high * den
  else i.low * den < num * i.den && num * i.den < i.high * den

/-- distance of `num / den` from the point, over the denominator `den * i.den` -/
def distance (i : Interval) (num den : Nat) : Nat :=
  let a := num * i.den
  let b := i.point * den
  if a ≤ b then b - a else a - b

end Interval

/-- the largest power of ten not above `num / den`, starting from an estimate -/
def adjustPower (num den : Nat) : Nat → Int → Int
  | 0, p => p
  | fuel + 1, p =>
    let (n, d) := Binary64.scaleTen 1 1 p
    if n * den > num * d then adjustPower num den fuel (p - 1)
    else
      let (n, d) := Binary64.scaleTen 1 1 (p + 1)
      if n * den ≤ num * d then adjustPower num den fuel (p + 1) else p

/-- exponent of the largest power of ten not above a positive ratio -/
def powerOfTen (num den : Nat) : Int :=
  adjustPower num den 4 (((num.log2 : Int) - den.log2) * 30103 / 100000)

/-- the multiple of 10^k nearest to the point among its two neighbours in the interval; of two equally near the even one -/
def candidate? (i : Interval) (k : Int) : Option Nat :=
  let (sn, sd) := Binary64.scaleTen 1 1 k
  let lower := i.point * sd / (i.den * sn)
  let fits d := i.has (d * sn) sd
  match fits lower, fits (lower + 1) with
  | false, false => none
  | true, false => some lower
  | false, true => some (lower + 1)
  | true, true =>
    let a := i.distance (lower * sn) sd
    let b := i.distance ((lower + 1) * sn) sd
    if a < b || (a == b && lower % 2 == 0) then some lower else some (lower + 1)

/-- the first length from `length` on at which a candidate fits, with the power of ten of its last digit -/
def shortestFrom (i : Interval) (top : Int) : Nat → Nat → Nat × Int
  | 0, _ => (0, 0)
  | fuel + 1, length =>
    let k := top - length + 1
    match candidate? i k with
    | some d => (d, k)
    | none => shortestFrom i top fuel (length + 1)

/-- the shortest digits of a positive double and the power of ten of the last one -/
def shortest (m : Nat) (e : Int) : Nat × Int :=
  let i := Interval.around m e
  shortestFrom i (powerOfTen i.point i.den) 17 1

/-- digits without zeros at the end, which move into the power of ten -/
def dropZeros : Nat → Nat → Int → Nat × Int
  | 0, d, k => (d, k)
  | fuel + 1, d, k => if d ≠ 0 && d % 10 = 0 then dropZeros fuel (d / 10) (k + 1) else (d, k)

/-- digits with the point after the first `point` of them; zeros fill the places before and after -/
def positional (ds : List Char) (point : Int) : List Char :=
  if point ≤ 0 then '0' :: '.' :: (List.replicate (-point).toNat '0' ++ ds)
  else if point < ds.length then ds.take point.toNat ++ '.' :: ds.drop point.toNat
  else ds ++ List.replicate (point.toNat - ds.length) '0' ++ ['.', '0']

/-- digits with a point after the first and an exponent of two digits or more -/
def exponential (ds : List Char) (point : Int) : List Char :=
  let e := point - 1
  let mantissa := match ds with
    | d :: d' :: rest => d :: '.' :: d' :: rest
    | ds => ds
  mantissa ++ 'e' :: (if e < 0 then '-' else '+') :: padStart 2 '0' (Nat.toDigits 10 e.natAbs)

/-- the shortest text that reads back as the number -/
def Binary64.text : Binary64 → String
  | .nan => "nan"
  | .infinity negative => if negative then "-inf" else "inf"
  | .finite negative m e =>
    .ofList <| (if negative then ['-'] else []) ++
      if m = 0 then ['0', '.', '0']
      else
        let (d, k) := shortest m e
        let (d, k) := dropZeros 17 d k
        let ds := Nat.toDigits 10 d
        let point := k + ds.length
        if -4 < point && point ≤ 16 then positional ds point else exponential ds point

end YangDesign.Number
