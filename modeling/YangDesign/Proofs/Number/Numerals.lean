/-
Numerals: a sign, digits and a point, written and read back.

A `Numeral` never has an exponent. Integers and finite decimals are written as numerals of their digits (`chars_ofInt`,
`hasNumeral_plainText`), and the characters of a numeral are read as the digits that they show (`Numeral.literal`). Together: an
integer comes back as it is (`readInteger_toString`), and a decimal comes back with a positive power of ten multiplied out,
unless this takes more digits than a decimal may have (`read?_plainText`); it is the same number then (`value?_expanded`).
-/
import Mathlib.Data.Rat.Defs
import Mathlib.Tactic
import YangDesign.Number.Decimal

namespace YangDesign.Number

open Text

/-! ## Digits -/

/-- the number that a digit of ASCII stands for -/
def digitOf (c : Char) : Nat :=
  c.toNat - 48

/-- digits of ASCII and nothing else -/
def AllDigits (cs : List Char) : Prop :=
  ∀ c ∈ cs, c.isDigit = true

theorem isDigit_range {c : Char} (h : c.isDigit = true) : 48 ≤ c.toNat ∧ c.toNat ≤ 57 :=
  Char.isDigit_iff_toNat.1 h

theorem digitValue?_of_isDigit {c : Char} (h : c.isDigit = true) : digitValue? c = some (digitOf c) := by
  have hrun : (decide (48 ≤ c.toNat) && decide (c.toNat < 58)) = true := by
    rw [Bool.and_eq_true, decide_eq_true_eq, decide_eq_true_eq]
    exact ⟨(isDigit_range h).1, Nat.lt_succ_of_le (isDigit_range h).2⟩
  have hfirst : digitZeros.find? (fun z => z ≤ c.toNat && c.toNat < z + 10) = some 48 := by
    rw [show digitZeros = 48 :: digitZeros.tail from rfl]
    exact List.find?_cons_of_pos hrun
  rw [digitValue?, hfirst]
  rfl

theorem asciiDigit?_of_isDigit {c : Char} (h : c.isDigit = true) : asciiDigit? 10 c = some (digitOf c) := by
  obtain ⟨hlow, hhigh⟩ := isDigit_range h
  have hlt : c.toNat - 48 < 10 := by omega
  simp [asciiDigit?, h, hlt, digitOf]

theorem asciiDigit?_of_not_isDigit {c : Char} (h : c.isDigit = false) : asciiDigit? 10 c = none := by
  have hletter : ∀ {low high : Char}, (low ≤ c && c ≤ high) = true → low.toNat ≤ c.toNat := fun hle =>
    of_decide_eq_true (Bool.and_eq_true_iff.1 hle).1
  unfold asciiDigit?
  refine if_neg (Nat.not_lt.2 ?_)
  rw [if_neg (by rw [h]; exact Bool.false_ne_true)]
  split_ifs with hlower hupper
  · have : 97 ≤ c.toNat := hletter hlower
    omega
  · have : 65 ≤ c.toNat := hletter hupper
    omega
  · exact le_rfl

theorem ofDigits_map_digitOf (cs : List Char) : ofDigits 10 (cs.map digitOf) = Nat.ofDigitChars 10 cs 0 := by
  rw [ofDigits, Nat.ofDigitChars, List.foldl_map]
  refine congrArg (fun f => cs.foldl f 0) (funext fun n => funext fun c => ?_)
  rw [Nat.mul_comm]
  rfl

theorem allDigits_toDigits (n : Nat) : AllDigits (Nat.toDigits 10 n) := fun _ hc =>
  Nat.isDigit_of_mem_toDigits (by decide) (by decide) hc

theorem AllDigits.append {cs ds : List Char} (hcs : AllDigits cs) (hds : AllDigits ds) : AllDigits (cs ++ ds) := fun c hc =>
  (List.mem_append.1 hc).elim (hcs c) (hds c)

theorem allDigits_zeros (k : Nat) : AllDigits (List.replicate k '0') := fun c hc => by
  rw [List.eq_of_mem_replicate hc]
  decide

/-! ## Numerals -/

/-- an optional minus sign, digits, and digits after a point if there are any -/
structure Numeral where
  negative : Bool
  whole : List Char
  fraction : List Char
  allWhole : AllDigits whole
  allFraction : AllDigits fraction
  nonempty : whole ≠ []

namespace Numeral

/-- the characters of a numeral -/
def chars (x : Numeral) : List Char :=
  Decimal.sign x.negative ++ x.whole ++ if x.fraction = [] then [] else '.' :: x.fraction

/-- all digits of a numeral as one number -/
def units (x : Numeral) : Nat :=
  Nat.ofDigitChars 10 (x.whole ++ x.fraction) 0

/-- the numeral of an integer -/
def ofInt (i : Int) : Numeral :=
  ⟨i < 0, Nat.toDigits 10 i.natAbs, [], allDigits_toDigits _, nofun, Nat.toDigits_ne_nil⟩

/-- integers are written as numerals -/
theorem chars_ofInt (i : Int) : (toString i).toList = (ofInt i).chars := by
  cases i with
  | ofNat n =>
    change (Nat.repr n).toList = _
    simp [Nat.repr_eq_ofList_toDigits, chars, ofInt, Decimal.sign]
  | negSucc n =>
    change ("-" ++ Nat.repr (n + 1)).toList = _
    simp [Nat.repr_eq_ofList_toDigits, chars, ofInt, Decimal.sign, Int.negSucc_lt_zero]

end Numeral

/-- a text is a numeral -/
def IsNumeral (s : String) : Prop :=
  ∃ x : Numeral, s.toList = x.chars

/-! ## Characters of numbers -/

/-- a character of numbers in ASCII -/
def IsNumeric (c : Char) : Prop :=
  c.isDigit = true ∨ c ∈ ['-', '+', '.', 'e']

/-- a text without blanks around it and without underscores, its digits those of ASCII -/
def unadorned (s : String) : List Char :=
  plainDigits ((trimBlank s.toList).filter (· != '_'))

theorem IsNumeric.not_blank {c : Char} (h : IsNumeric c) : isBlank c = false := by
  rcases h with h | h
  · obtain ⟨hlow, hhigh⟩ := isDigit_range h
    simp only [isBlank, Bool.or_eq_false_iff, Bool.and_eq_false_iff, decide_eq_false_iff_not, beq_eq_false_iff_ne]
    omega
  · simp only [List.mem_cons, List.not_mem_nil, or_false] at h
    rcases h with rfl | rfl | rfl | rfl <;> decide

theorem IsNumeric.plain {c : Char} (h : IsNumeric c) :
    (match digitValue? c with | some d => Char.ofNat (48 + d) | none => c) = c := by
  rcases h with h | h
  · obtain ⟨hlow, hhigh⟩ := isDigit_range h
    have hcode : 48 + digitOf c = c.toNat := by
      rw [digitOf]
      omega
    rw [digitValue?_of_isDigit h]
    simp only [hcode, Char.ofNat_toNat]
  · simp only [List.mem_cons, List.not_mem_nil, or_false] at h
    rcases h with rfl | rfl | rfl | rfl <;> rfl

theorem IsNumeric.ne_underscore {c : Char} (h : IsNumeric c) : c ≠ '_' := by
  rintro rfl
  rcases h with h | h <;> exact absurd h (by decide)

theorem dropWhile_of_forall {p : Char → Bool} {cs : List Char} (h : ∀ c ∈ cs, p c = false) : cs.dropWhile p = cs := by
  cases cs with
  | nil => rfl
  | cons c cs => exact List.dropWhile_cons_of_neg (by simp [h c List.mem_cons_self])

/-- nothing is dropped at the ends of a text without blanks -/
theorem trim_of_forall {p : Char → Bool} {cs : List Char} (h : ∀ c ∈ cs, p c = false) :
    ((cs.dropWhile p).reverse.dropWhile p).reverse = cs := by
  rw [dropWhile_of_forall h, dropWhile_of_forall fun c hc => h c (List.mem_reverse.1 hc), List.reverse_reverse]

theorem unadorned_of_numeric {s : String} (h : ∀ c ∈ s.toList, IsNumeric c) : unadorned s = s.toList := by
  have htrim : trimBlank s.toList = s.toList := trim_of_forall fun c hc => (h c hc).not_blank
  have hfilter : s.toList.filter (· != '_') = s.toList :=
    List.filter_eq_self.2 fun c hc => bne_iff_ne.2 (h c hc).ne_underscore
  rw [unadorned, htrim, hfilter]
  exact (List.map_congr_left fun c hc => (h c hc).plain).trans (List.map_id' _)

theorem Numeral.numeric (x : Numeral) : ∀ c ∈ x.chars, IsNumeric c := by
  intro c hc
  rw [chars, List.mem_append, List.mem_append] at hc
  rcases hc with (hc | hc) | hc
  · unfold Decimal.sign at hc
    split at hc
    · exact Or.inr (by rw [List.mem_singleton.1 hc]; decide)
    · exact absurd hc List.not_mem_nil
  · exact Or.inl (x.allWhole c hc)
  · split at hc
    · exact absurd hc List.not_mem_nil
    · rcases List.mem_cons.1 hc with rfl | hc
      · exact Or.inr (by decide)
      · exact Or.inl (x.allFraction c hc)

/-! ## Reading -/

/-- a sign is taken off what does not begin with one -/
theorem takeSign_sign (negative : Bool) {c : Char} (h : c.isDigit = true) (cs : List Char) :
    takeSign (Decimal.sign negative ++ c :: cs) = (negative, c :: cs) := by
  cases negative with
  | true => rfl
  | false =>
    have hminus : c ≠ '-' := by
      rintro rfl
      exact absurd h (by decide)
    have hplus : c ≠ '+' := by
      rintro rfl
      exact absurd h (by decide)
    simp [Decimal.sign, takeSign, hminus, hplus]

theorem takeSign_whole (x : Numeral) (rest : List Char) :
    takeSign (Decimal.sign x.negative ++ x.whole ++ rest) = (x.negative, x.whole ++ rest) := by
  obtain ⟨c, cs, hwhole⟩ := List.exists_cons_of_ne_nil x.nonempty
  have hc := x.allWhole c (hwhole ▸ List.mem_cons_self)
  rw [hwhole, List.append_assoc]
  exact takeSign_sign x.negative hc (cs ++ rest)

/-- all digits are taken up to a character that is none -/
theorem spanDigits_append {cs : List Char} (hcs : AllDigits cs) (rest : List Char)
    (hrest : ∀ c ∈ rest.head?, asciiDigit? 10 c = none) :
    spanDigits (cs ++ rest) = (cs.map digitOf, rest) := by
  induction cs with
  | nil =>
    cases rest with
    | nil => rfl
    | cons c cs => simp [spanDigits, hrest c rfl]
  | cons c cs ih =>
    have hc := asciiDigit?_of_isDigit (hcs c List.mem_cons_self)
    rw [List.cons_append, spanDigits, hc, ih fun c hc => hcs c (List.mem_cons_of_mem _ hc)]
    rfl

/-- a numeral is read as the digits that it shows -/
theorem Numeral.literal (x : Numeral) :
    Literal.read? x.chars = some ⟨x.negative, x.whole.map digitOf, x.fraction.map digitOf, 0⟩ := by
  have hne := x.nonempty
  rw [Literal.read?, chars, takeSign_whole]
  by_cases hempty : x.fraction = []
  · have hall : spanDigits x.whole = (x.whole.map digitOf, []) := by
      simpa using spanDigits_append x.allWhole [] nofun
    simp [hempty, hall, hne, readExponent]
  · have hpoint : spanDigits (x.whole ++ '.' :: x.fraction) = (x.whole.map digitOf, '.' :: x.fraction) :=
      spanDigits_append x.allWhole _ fun c hc => by
        obtain rfl := Option.some.inj hc
        decide
    have hrest : spanDigits x.fraction = (x.fraction.map digitOf, []) := by
      simpa using spanDigits_append x.allFraction [] nofun
    simp [hempty, hpoint, hrest, hne, readExponent]

theorem groupedDigits_of_allDigits {cs : List Char} (h : AllDigits cs) (afterDigit : Bool)
    (hne : afterDigit = false → cs ≠ []) : groupedDigits digitValue? afterDigit cs = some (cs.map digitOf) := by
  induction cs generalizing afterDigit with
  | nil =>
    cases afterDigit with
    | false => exact absurd rfl (hne rfl)
    | true => rfl
  | cons c cs ih =>
    have hc := h c List.mem_cons_self
    have hcs := ih (fun c hc => h c (List.mem_cons_of_mem _ hc)) true nofun
    have hunderscore : c ≠ '_' := IsNumeric.ne_underscore (Or.inl hc)
    rw [groupedDigits]
    · rw [digitValue?_of_isDigit hc, hcs]
      rfl
    · exact hunderscore

/-! ## Integers -/

theorem length_toDigits_le {n k : Nat} (hk : 0 < k) (h : n < Nat.pow 10 k) : (Nat.toDigits 10 n).length ≤ k :=
  (Nat.length_toDigits_le_iff (by decide) hk).2 h

theorem signed_natAbs (i : Int) : signed (decide (i < 0)) i.natAbs = i := by
  by_cases hi : i < 0
  · rw [decide_eq_true hi, signed, if_pos rfl]
    omega
  · rw [decide_eq_false hi, signed, if_neg Bool.false_ne_true]
    omega

/-- **Integers read back.** The text of an integer that has not too many digits is read as this integer. -/
theorem readInteger_toString {i : Int} (h : i.natAbs < Nat.pow 10 maxIntegerDigits) : readInteger (toString i) = some i := by
  let x := Numeral.ofInt i
  have hlength : x.whole.length ≤ maxIntegerDigits := length_toDigits_le (by decide) h
  have htrim : trimSpace x.chars = x.chars := trim_of_forall fun c hc => by
    rw [isSpace, (x.numeric c hc).not_blank, Bool.false_and]
  have hsign : takeSign x.chars = (x.negative, x.whole) := by
    rw [← List.append_nil x.whole]
    exact takeSign_whole x []
  have hnumber : ofDigits 10 (x.whole.map digitOf) = i.natAbs := by
    rw [ofDigits_map_digitOf]
    exact Nat.ofDigitChars_ten_toDigits
  have hgrouped := groupedDigits_of_allDigits x.allWhole false fun _ => x.nonempty
  rw [readInteger, Numeral.chars_ofInt, htrim, hsign]
  simp only [hgrouped, Option.bind_eq_bind, Option.bind_some, List.length_map, if_pos hlength, hnumber]
  exact congrArg some (signed_natAbs i)

/-! ## Decimals -/

namespace Decimal

/-- a number, neither an infinity nor a not-a-number -/
def IsFinite (d : Decimal) : Prop :=
  ∃ negative n e, d = .finite negative n e

/-- the number that a decimal stands for -/
def value? : Decimal → Option Rat
  | .finite negative n e => some (signed negative n * (10 : Rat) ^ e)
  | _ => none

/-- the exponent of the first digit -/
def adjusted (n : Nat) (e : Int) : Int :=
  e + (digitCount n - 1 : Nat)

/-- a decimal whose digits and exponents are within the limits -/
def WithinLimits : Decimal → Prop
  | .finite _ n e => digitCount n ≤ maxDigits ∧ adjusted n e ≤ maxExponent ∧ minExponent ≤ e
  | .infinity _ => True
  | .nan _ _ payload => digitCount payload ≤ maxDigits

/-- a decimal whose text without an exponent has not too many digits, neither in all nor after the point -/
def IsBrief : Decimal → Prop
  | .finite _ n e => -(maxDigits : Int) ≤ e ∧ (n = 0 ∨ digitCount n + e ≤ maxDigits)
  | _ => True

/-- a decimal with a positive power of ten multiplied out -/
def expanded : Decimal → Decimal
  | .finite negative n e => .finite negative (n * 10 ^ e.toNat) (min e 0)
  | d => d

theorem ofLiteral?_eq_some_iff {l : Literal} {d : Decimal} : ofLiteral? l = some d ↔
    d = .finite l.negative l.coefficient l.scale ∧ d.WithinLimits ∧ l.fraction.length ≤ maxDigits := by
  simp only [ofLiteral?, Bool.or_eq_true, decide_eq_true_eq]
  split_ifs with hdigits hexponents
  · refine iff_of_false nofun ?_
    rintro ⟨rfl, hlimits, hfraction⟩
    exact hdigits.elim (Nat.not_lt.2 hlimits.1) (Nat.not_lt.2 hfraction)
  · refine iff_of_false nofun ?_
    rintro ⟨rfl, ⟨-, hhigh, hlow⟩, -⟩
    exact hexponents.elim (Int.not_lt.2 hhigh) (Int.not_lt.2 hlow)
  · obtain ⟨hcoefficient, hfraction⟩ := not_or.1 hdigits
    obtain ⟨hhigh, hlow⟩ := not_or.1 hexponents
    have hlimits : (Decimal.finite l.negative l.coefficient l.scale).WithinLimits :=
      ⟨Nat.not_lt.1 hcoefficient, Int.not_lt.1 hhigh, Int.not_lt.1 hlow⟩
    rw [Option.some.injEq]
    exact ⟨fun h => h ▸ ⟨rfl, hlimits, Nat.not_lt.1 hfraction⟩, fun h => h.1.symm⟩

/-- digits after the word for a not-a-number are its payload -/
theorem payload_of_ofPayload? {negative signaling : Bool} {cs : List Char} {d : Decimal}
    (h : ofPayload? negative signaling cs = some d) :
    ∃ ds, digitsIn? 10 cs = some ds ∧ d = .nan negative signaling (ofDigits 10 ds) ∧ d.WithinLimits := by
  obtain ⟨ds, hds, h⟩ := Option.bind_eq_some_iff.1 h
  dsimp only at h
  split at h
  · cases h
  · rename_i hfew
    cases h
    exact ⟨ds, hds, rfl, Nat.not_lt.1 hfew⟩

/-- a word that is read is one for an infinity, or one for a not-a-number with the digits of its payload -/
theorem ofWord?_cases {negative : Bool} {cs : List Char} {d : Decimal} (h : ofWord? negative cs = some d) :
    d = .infinity negative ∧ (cs = "inf".toList ∨ cs = "infinity".toList) ∨
    ∃ signaling ds payload, cs = (if signaling then "snan".toList else "nan".toList) ++ ds ∧
      digitsIn? 10 ds = some payload ∧ d = .nan negative signaling (ofDigits 10 payload) ∧ d.WithinLimits := by
  unfold ofWord? at h
  split at h
  · rename_i hword
    cases h
    rw [Bool.or_eq_true, decide_eq_true_eq, decide_eq_true_eq] at hword
    exact Or.inl ⟨rfl, hword⟩
  · split at h
    · obtain ⟨payload, hds, rfl, hlimits⟩ := payload_of_ofPayload? h
      exact Or.inr ⟨false, _, payload, rfl, hds, rfl, hlimits⟩
    · obtain ⟨payload, hds, rfl, hlimits⟩ := payload_of_ofPayload? h
      exact Or.inr ⟨true, _, payload, rfl, hds, rfl, hlimits⟩
    · cases h

theorem read?_eq (s : String) : read? s = match Literal.read? (unadorned s) with
    | some l => ofLiteral? l
    | none => ofWord? (takeSign (unadorned s)).1 ((takeSign (unadorned s)).2.map Char.toLower) := rfl

/-- what is read from a numeral is the decimal of its digits -/
theorem read?_numeral {x : Numeral} {n : Nat} {e : Int} {s : String} (hs : s.toList = x.chars) (hn : x.units = n)
    (he : -(x.fraction.length : Int) = e) {d : Decimal} :
    read? s = some d ↔ d = .finite x.negative n e ∧ d.WithinLimits ∧ x.fraction.length ≤ maxDigits := by
  have hplain : unadorned s = x.chars := by
    rw [← hs]
    exact unadorned_of_numeric fun c hc => x.numeric c (hs ▸ hc)
  have hcoefficient : Literal.coefficient ⟨x.negative, x.whole.map digitOf, x.fraction.map digitOf, 0⟩ = n := by
    rw [Literal.coefficient, ← List.map_append, ofDigits_map_digitOf]
    exact hn
  have hscale : Literal.scale ⟨x.negative, x.whole.map digitOf, x.fraction.map digitOf, 0⟩ = e := by
    rw [Literal.scale, List.length_map, Int.zero_sub, he]
  rw [read?_eq, hplain, x.literal]
  refine ofLiteral?_eq_some_iff.trans ?_
  rw [hcoefficient, hscale, List.length_map]

theorem ofDigitChars_zeros (k : Nat) (cs : List Char) :
    Nat.ofDigitChars 10 (List.replicate k '0' ++ cs) 0 = Nat.ofDigitChars 10 cs 0 := by
  rw [Nat.ofDigitChars_append, Nat.ofDigitChars_replicate_zero, Nat.mul_zero]

section Written

variable (negative : Bool) (n : Nat) (e : Int)

/-- a text is a numeral of the digits of a decimal, with a place after the point for each negative power of ten -/
def HasNumeral (cs : List Char) : Prop :=
  ∃ x : Numeral, cs = x.chars ∧ x.negative = negative ∧ x.units = n * 10 ^ e.toNat ∧ x.fraction.length = (-e).toNat

theorem hasNumeral_whole {negative : Bool} {n : Nat} {e : Int} (he : ¬e < 0) {whole : List Char} (hall : AllDigits whole)
    (hne : whole ≠ []) (hunits : Nat.ofDigitChars 10 whole 0 = n * 10 ^ e.toNat) :
    HasNumeral negative n e (sign negative ++ whole) := by
  refine ⟨⟨negative, whole, [], hall, nofun, hne⟩, (List.append_nil _).symm, rfl, ?_, ?_⟩
  · rw [Numeral.units, List.append_nil, hunits]
  · rw [List.length_nil]
    omega

/-- a point before the last digits leaves one digit in front, since zeros fill the places -/
theorem hasNumeral_withPoint (he : e < 0) : HasNumeral negative n e (sign negative ++ withPoint n (-e).toNat) := by
  let ds := padStart ((-e).toNat + 1) '0' (Nat.toDigits 10 n)
  let k := ds.length - (-e).toNat
  have hds : AllDigits ds := (allDigits_zeros _).append (allDigits_toDigits n)
  have hlength : (-e).toNat + 1 ≤ ds.length := by
    simp only [ds, padStart, List.length_append, List.length_replicate]
    omega
  have hfraction : (ds.drop k).length = (-e).toNat := by
    rw [List.length_drop]
    omega
  have hfractionNe : ds.drop k ≠ [] := List.ne_nil_of_length_pos (by omega)
  have hwholeNe : ds.take k ≠ [] := by
    refine List.ne_nil_of_length_pos ?_
    rw [List.length_take]
    omega
  refine ⟨⟨negative, ds.take k, ds.drop k, fun c hc => hds c (List.mem_of_mem_take hc),
    fun c hc => hds c (List.mem_of_mem_drop hc), hwholeNe⟩, ?_, rfl, ?_, hfraction⟩
  · rw [Numeral.chars, if_neg hfractionNe, List.append_assoc]
    rfl
  · rw [Numeral.units, List.take_append_drop, show ds = List.replicate _ '0' ++ Nat.toDigits 10 n from rfl,
      ofDigitChars_zeros, Nat.ofDigitChars_ten_toDigits, Int.toNat_of_nonpos he.le, pow_zero, Nat.mul_one]

/-- finite decimals are written as numerals -/
theorem hasNumeral_plainText : HasNumeral negative n e (plainText (.finite negative n e)).toList := by
  rw [plainText, String.toList_ofList]
  split_ifs with he hn
  · exact hasNumeral_withPoint negative n e he
  · refine hasNumeral_whole he (allDigits_zeros 1) (by decide) ?_
    rw [hn, Nat.zero_mul]
    rfl
  · refine hasNumeral_whole he ((allDigits_toDigits n).append (allDigits_zeros _))
      (List.append_ne_nil_of_left_ne_nil Nat.toDigits_ne_nil _) ?_
    rw [Nat.ofDigitChars_append, Nat.ofDigitChars_replicate_zero, Nat.ofDigitChars_ten_toDigits, Nat.mul_comm]

end Written

/-- a power of ten adds as many digits -/
theorem digitCount_shift {n : Nat} (hn : n ≠ 0) (k : Nat) : digitCount (n * 10 ^ k) = digitCount n + k := by
  induction k with
  | zero => rw [pow_zero, Nat.mul_one, Nat.add_zero]
  | succ k ih =>
    have hpos : 0 < n * 10 ^ k := Nat.mul_pos (Nat.pos_of_ne_zero hn) (Nat.pow_pos (by decide))
    have hdigits : Nat.toDigits 10 (n * 10 ^ k) ++ Nat.toDigits 10 0 = Nat.toDigits 10 (10 * (n * 10 ^ k) + 0) :=
      Nat.toDigits_append_toDigits (by decide) hpos (by decide)
    have hnext : n * 10 ^ (k + 1) = 10 * (n * 10 ^ k) + 0 := by
      rw [pow_succ]
      ring
    rw [digitCount, hnext, ← hdigits, List.length_append, ← digitCount, ih]
    rfl

/-- the text of a decimal is within the limits exactly if it has not too many digits -/
theorem isBrief_iff {negative : Bool} {n : Nat} {e : Int} (h : (Decimal.finite negative n e).WithinLimits) :
    (Decimal.finite negative n e).IsBrief ↔
      (Decimal.finite negative n e).expanded.WithinLimits ∧ (-e).toNat ≤ maxDigits := by
  obtain ⟨hdigits, hhigh, hlow⟩ := h
  have hlimit : (maxDigits : Int) = maxExponent := rfl
  have hlower : minExponent ≤ 0 := by decide
  simp only [IsBrief, expanded, WithinLimits, adjusted] at hhigh ⊢
  rcases le_or_gt e 0 with he | he
  · rw [min_eq_left he, Int.toNat_of_nonpos he, pow_zero, Nat.mul_one]
    omega
  · rw [min_eq_right he.le]
    by_cases hn : n = 0
    · have hone : digitCount 0 = 1 := rfl
      have hroom : 1 ≤ maxDigits := by decide
      rw [hn, Nat.zero_mul, hone]
      omega
    · rw [digitCount_shift hn]
      omega

/-- a power of ten that is multiplied out leaves the number as it is -/
theorem value?_expanded (d : Decimal) : d.expanded.value? = d.value? := by
  cases d with
  | finite negative n e =>
    have hsigned : ∀ k : Nat, (signed negative (n * k) : Rat) = signed negative n * k := fun k => by
      cases negative <;> simp [signed]
    simp only [expanded, value?, Option.some.injEq]
    rcases le_or_gt e 0 with he | he
    · rw [min_eq_left he, Int.toNat_of_nonpos he, pow_zero, Nat.mul_one]
    · have hpower : (10 : Rat) ^ e = (10 ^ e.toNat : Nat) := by
        rw [Nat.cast_pow, ← zpow_natCast, Int.toNat_of_nonneg he.le, Nat.cast_ofNat]
      rw [min_eq_right he.le, zpow_zero, mul_one, hsigned, hpower]
  | infinity | nan => rfl

/-- **Decimals read back.** The text of a finite decimal without an exponent is read exactly if it has not too many digits, and
then as the same decimal, with a positive power of ten multiplied out. -/
theorem read?_plainText {d : Decimal} (hd : d.IsFinite) (h : d.WithinLimits) {d' : Decimal} :
    read? d.plainText = some d' ↔ d' = d.expanded ∧ d.IsBrief := by
  obtain ⟨negative, n, e, rfl⟩ := hd
  obtain ⟨x, htext, rfl, hunits, hfraction⟩ := hasNumeral_plainText negative n e
  have hscale : -(x.fraction.length : Int) = min e 0 := by
    rw [hfraction]
    omega
  rw [read?_numeral htext hunits hscale, hfraction, isBrief_iff h]
  refine and_congr_right ?_
  rintro rfl
  rfl

/-- a decimal that was read is within the limits -/
theorem withinLimits_of_read? {s : String} {d : Decimal} (h : read? s = some d) : d.WithinLimits := by
  rw [read?_eq] at h
  split at h
  · exact (ofLiteral?_eq_some_iff.1 h).2.1
  · obtain ⟨rfl, -⟩ | ⟨_, _, _, -, -, -, hlimits⟩ := ofWord?_cases h
    · exact trivial
    · exact hlimits

end Decimal

end YangDesign.Number
