/-
Double precision numbers, exactly: a sign, a significand below 2^53 and a power of two.

`Binary64.ofRatio` rounds a ratio of naturals to the nearest double, a half to the even significand. A finite number is kept
in one form: the significand has 53 bits unless the exponent is the least one.
-/
import YangDesign.Number.Literal

namespace YangDesign.Number

/-- a double precision number -/
inductive Binary64 where
  | finite (negative : Bool) (significand : Nat) (exponent : Int)
  | infinity (negative : Bool)
  | nan
  deriving DecidableEq, Repr

namespace Binary64

/-- exponent of the least positive double -/
def minExponent : Int := -1074

/-- exponent of the largest finite double -/
def maxExponent : Int := 971

/-- `num / den` times a power of ten, as a numerator and a denominator -/
def scaleTen (num den : Nat) (e : Int) : Nat × Nat :=
  if 0 ≤ e then (num * Nat.pow 10 e.toNat, den) else (num, den * Nat.pow 10 (-e).toNat)

/-- `num / den` divided by a power of two, as a numerator and a denominator -/
def unscaleTwo (num den : Nat) (e : Int) : Nat × Nat :=
  if 0 ≤ e then (num, den * Nat.pow 2 e.toNat) else (num * Nat.pow 2 (-e).toNat, den)

/-- the nearest natural number, a half to the even one -/
def roundEven (num den : Nat) : Nat :=
  let q := num / den
  let r := num % den
  if 2 * r > den || (2 * r == den && q % 2 == 1) then q + 1 else q

/-- the exponent at which `num / den` has a significand of 53 bits, or the least exponent -/
def exponentFor (num den : Nat) : Int :=
  let e := max minExponent ((num.log2 : Int) - den.log2 - 53)
  let (n, d) := unscaleTwo num den e
  if n / d < Nat.pow 2 53 then e else e + 1

/-- the double nearest to `num / den` -/
def ofRatio (negative : Bool) (num den : Nat) : Binary64 :=
  if num = 0 then .finite negative 0 minExponent
  else
    let e := exponentFor num den
    let (n, d) := unscaleTwo num den e
    let m := roundEven n d
    let (m, e) := if m = Nat.pow 2 53 then (Nat.pow 2 52, e + 1) else (m, e)
    if e > maxExponent then .infinity negative else .finite negative m e

/-- the double nearest to a coefficient times a power of ten -/
def ofScientific (negative : Bool) (coefficient : Nat) (exponent : Int) : Binary64 :=
  let magnitude := exponent + (Nat.toDigits 10 coefficient).length
  if coefficient = 0 || magnitude < -330 then .finite negative 0 minExponent
  else if magnitude > 310 then .infinity negative
  else
    let (num, den) := scaleTen coefficient 1 exponent
    ofRatio negative num den

/-- the double nearest to a decimal literal -/
def ofLiteral (l : Literal) : Binary64 :=
  ofScientific l.negative l.coefficient l.scale

/-- the double nearest to an integer -/
def ofInt (i : Int) : Binary64 :=
  ofRatio (i < 0) i.natAbs 1

/-- the magnitude of a finite number as a ratio -/
def ratio (m : Nat) (e : Int) : Nat × Nat :=
  if 0 ≤ e then (m * Nat.pow 2 e.toNat, 1) else (m, Nat.pow 2 (-e).toNat)

/-- the integer a number equals -/
def toInt? : Binary64 → Option Int
  | .finite negative m e =>
    let (n, d) := ratio m e
    if n % d = 0 then some (signed negative (n / d)) else none
  | _ => none

/-- the largest integer not above a finite number -/
def floor? : Binary64 → Option Int
  | .finite negative m e =>
    let (n, d) := ratio m e
    some (signed negative n / (d : Int))
  | _ => none

/-- the sum, rounded; an exact zero is positive unless both numbers are negative zeros -/
def add : Binary64 → Binary64 → Binary64
  | .finite s m e, .finite s' m' e' =>
    let (n, d) := ratio m e
    let (n', d') := ratio m' e'
    let total := signed s (n * d') + signed s' (n' * d)
    if total = 0 then .finite (s && s') 0 minExponent else ofRatio (total < 0) total.natAbs (d * d')
  | .nan, _ => .nan
  | _, .nan => .nan
  | .infinity s, .infinity s' => if s = s' then .infinity s else .nan
  | .infinity s, _ => .infinity s
  | _, .infinity s => .infinity s

/-- the product, rounded; zero times infinity is no number -/
def mul : Binary64 → Binary64 → Binary64
  | .finite s m e, .finite s' m' e' =>
    let (n, d) := ratio m e
    let (n', d') := ratio m' e'
    ofRatio (s != s') (n * n') (d * d')
  | .nan, _ => .nan
  | _, .nan => .nan
  | .infinity s, .infinity s' => .infinity (s != s')
  | .infinity s, .finite s' m _ => if m = 0 then .nan else .infinity (s != s')
  | .finite s m _, .infinity s' => if m = 0 then .nan else .infinity (s != s')

/-- the quotient by a positive natural number, rounded -/
def divNat (k : Nat) : Binary64 → Binary64
  | .finite s m e =>
    let (n, d) := ratio m e
    ofRatio s n (d * k)
  | x => x

/-- the natural number nearest to the magnitude of a number, a half to the greater one -/
def roundHalfUp : Binary64 → Nat
  | .finite _ m e =>
    let (n, d) := ratio m e
    (2 * n + d) / (2 * d)
  | _ => 0

/-- the number with the sign changed if asked for -/
def negateIf (flip : Bool) : Binary64 → Binary64
  | .finite negative m e => .finite (negative != flip) m e
  | .infinity negative => .infinity (negative != flip)
  | .nan => .nan

end Binary64

end YangDesign.Number
