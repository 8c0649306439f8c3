/-
Values through the texts that designs hold.

A value of an integer type, a decimal type, an enumeration or a type that is written as a text has a text, from which the type
decodes it again: the same integer, label or text (`through_int`, `through_text`), and for a decimal one that stands for the
same number (`through_decimal`). The text of a number is a numeral, so it never has an exponent, and the zeros that it has
instead may be too many: a decimal goes through its text exactly if the text has no more digits than a decimal may have
(`HasBriefText`). `leafValue_through_text` puts this together.
-/
import YangDesign.Design.Markup
import YangDesign.Proofs.Instance.LeafValues

namespace YangDesign.Instance

open Design Number Schema

/-- whether the values of a built-in type are decoded from texts: not truth values, and for a union anything -/
def IsTextual : BuiltIn → Prop
  | .boolean | .empty | .union => False
  | _ => True

/-- values that are equal, decimals as numbers -/
def SameValue : Value → Value → Prop
  | .decimal d, .decimal d' => d.value? = d'.value?
  | v, w => v = w

/-- an integer or a decimal -/
def IsNumber (v : Value) : Prop :=
  (∃ i, v = .int i) ∨ ∃ d, v = .decimal d

/-- a decimal has not too many digits in its text -/
def HasBriefText (v : Value) : Prop :=
  ∀ d, v = .decimal d → d.IsBrief

/-- a value has a text, from which nothing but the same value is decoded, and this exactly if the text is brief; a number has a
numeral -/
def Through (b : BuiltIn) (enums : List EnumValue) (v : Value) : Prop :=
  ∃ c, codedText v = .ok c ∧ (∀ w, decodeBuiltIn b enums (.ofCoded c) = .ok w → SameValue v w) ∧
    ((∃ w, decodeBuiltIn b enums (.ofCoded c) = .ok w) ↔ HasBriefText v) ∧ (IsNumber v → ∃ s, c = .text s ∧ IsNumeral s)

section Kinds

variable {b : BuiltIn} {enums : List EnumValue} {x v : Value}

/-- a text that is brief and from which the same value is decoded -/
theorem Through.of_decoded {c : Text.Coded} {w : Value} (hc : codedText v = .ok c)
    (hw : decodeBuiltIn b enums (.ofCoded c) = .ok w) (hsame : SameValue v w) (hbrief : HasBriefText v)
    (hnumeral : IsNumber v → ∃ s, c = .text s ∧ IsNumeral s) : Through b enums v := by
  refine ⟨c, hc, fun w' hw' => ?_, iff_of_true ⟨w, hw⟩ hbrief, hnumeral⟩
  rw [hw] at hw'
  cases hw'
  exact hsame

/-! ## Integers -/

/-- an integer within the bounds of all integer types has few digits -/
theorem natAbs_lt_of_bounds {i : Int} (hlow : -Int.pow 2 63 ≤ i) (hhigh : i ≤ Int.pow 2 64) {k : Nat} (hk : 20 ≤ k) :
    i.natAbs < Nat.pow 10 k := by
  have hlow : -9223372036854775808 ≤ i := hlow
  have hhigh : i ≤ 18446744073709551616 := hhigh
  have hbound : i.natAbs < 100000000000000000000 := by omega
  have hpower : Nat.pow 10 20 ≤ Nat.pow 10 k := Nat.pow_le_pow_right (by decide) hk
  exact Nat.lt_of_lt_of_le hbound hpower

theorem through_int {low high : Int} (hrange : intRange? b = some (low, high)) (hlow : -Int.pow 2 63 ≤ low)
    (hhigh : high ≤ Int.pow 2 64) (h : decodeInt b (low, high) x = .ok v) : Through b enums v := by
  obtain ⟨i, rfl, hi⟩ := decodeInt_between h
  have hsmall : i.natAbs < Nat.pow 10 maxIntegerDigits :=
    natAbs_lt_of_bounds (hlow.trans hi.1) (hi.2.trans hhigh) (by decide)
  have hfits : (Value.int i).isOversized = false := Bool.eq_false_iff.2 fun hover =>
    absurd (le_natAbs_of_oversized (isOversized_iff.1 hover)) (Nat.not_le.2 hsmall)
  have htext : codedText (.int i) = .ok (.text (toString i)) := by
    simp only [codedText, hfits]
    rfl
  have hin : (decide (low ≤ i) && decide (i ≤ high)) = true := by
    rw [Bool.and_eq_true, decide_eq_true_eq, decide_eq_true_eq]
    exact hi
  have hdecode : decodeBuiltIn b enums (.text (toString i)) = .ok (.int i) := by
    simp only [decodeBuiltIn, hrange, decodeInt, intOf?, readInteger_toString hsmall, if_pos hin]
  have hbrief : HasBriefText (.int i) := fun _ heq => by cases heq
  exact .of_decoded htext hdecode rfl hbrief fun _ => ⟨_, rfl, .ofInt i, Numeral.chars_ofInt i⟩

/-! ## Decimals -/

theorem withinLimits_of_decimalOf? {d : Decimal} (h : decimalOf? x = some d) : d.WithinLimits := by
  cases x with
  | int i =>
    rw [decimalOf?] at h
    split at h
    · cases h
    · rename_i hover
      cases h
      have hsmall : i.natAbs < Nat.pow 10 maxIntegerDigits := by
        refine Nat.lt_of_not_le fun hle => hover (isOversized_iff.2 ?_)
        rw [Value.flaws, if_pos hle]
        exact List.mem_singleton_self _
      have hlength : Decimal.digitCount i.natAbs ≤ maxIntegerDigits := length_toDigits_le (by decide) hsmall
      have hroom : maxIntegerDigits ≤ Decimal.maxDigits := by decide
      have hfar : (maxIntegerDigits : Int) ≤ Decimal.maxExponent := by decide
      have hnear : Decimal.minExponent ≤ 0 := by decide
      refine ⟨hlength.trans hroom, ?_, hnear⟩
      unfold Decimal.adjusted
      omega
  | float y => exact Decimal.withinLimits_of_read? h
  | text s => exact Decimal.withinLimits_of_read? h
  | _ => cases h

theorem isNumeral_plainText {d : Decimal} (hd : d.IsFinite) : IsNumeral d.plainText := by
  obtain ⟨negative, n, e, rfl⟩ := hd
  obtain ⟨x, htext, -⟩ := Decimal.hasNumeral_plainText negative n e
  exact ⟨x, htext⟩

theorem codedText_decimal (d : Decimal) : codedText (.decimal d) = .ok (.text d.plainText) := rfl

/-- a decimal goes through its text exactly if the text is brief -/
theorem through_decimal {d : Decimal} (h : decimalOf? x = some d) (hd : d.IsFinite) :
    Through .decimal64 enums (.decimal d) := by
  have hbrief : HasBriefText (.decimal d) ↔ d.IsBrief :=
    ⟨fun hall => hall d rfl, fun hshort _ heq => Value.decimal.inj heq ▸ hshort⟩
  have hread : ∀ d', Decimal.read? d.plainText = some d' ↔ d' = d.expanded ∧ d.IsBrief := fun _ =>
    Decimal.read?_plainText hd (withinLimits_of_decimalOf? h)
  have hdecode : ∀ w, decodeBuiltIn .decimal64 enums (.text d.plainText) = .ok w ↔ w = .decimal d.expanded ∧ d.IsBrief := by
    intro w
    rw [decodeBuiltIn_decimal64_iff]
    constructor
    · rintro ⟨d', hd', rfl⟩
      obtain ⟨rfl, hshort⟩ := (hread d').1 hd'
      exact ⟨rfl, hshort⟩
    · rintro ⟨rfl, hshort⟩
      exact ⟨_, (hread _).2 ⟨rfl, hshort⟩, rfl⟩
  refine ⟨.text d.plainText, codedText_decimal d, fun w hw => ?_, ?_, fun _ => ⟨_, rfl, isNumeral_plainText hd⟩⟩
  · obtain ⟨rfl, -⟩ := (hdecode w).1 hw
    exact d.value?_expanded.symm
  · rw [hbrief]
    exact ⟨fun ⟨w, hw⟩ => ((hdecode w).1 hw).2, fun hshort => ⟨_, (hdecode _).2 ⟨rfl, hshort⟩⟩⟩

/-! ## Texts -/

theorem codedText_ofCoded (c : Text.Coded) : codedText (.ofCoded c) = .ok c := by
  cases c with
  | text s => rfl
  | broken codes => rfl

/-- a text that is decoded to itself -/
theorem through_text {c : Text.Coded} (h : decodeBuiltIn b enums (.ofCoded c) = .ok (.ofCoded c)) :
    Through b enums (.ofCoded c) := by
  refine .of_decoded (codedText_ofCoded c) h ?_ ?_ ?_
  · cases c <;> rfl
  · cases c <;> rintro _ ⟨⟩
  · cases c <;> rintro (⟨_, h⟩ | ⟨_, h⟩) <;> cases h

theorem decodeBuiltIn_through (hb : IsTextual b) (h : decodeBuiltIn b enums x = .ok v)
    (hfinite : ∀ d, v = .decimal d → d.IsFinite) : Through b enums v := by
  cases b with
  | int8 | int16 | int32 | int64 | uint8 | uint16 | uint32 | uint64 =>
    exact through_int rfl (by decide) (by decide) h
  | decimal64 =>
    obtain ⟨d, hd, rfl⟩ := decodeBuiltIn_decimal64_iff.1 h
    exact through_decimal hd (hfinite d rfl)
  | enumeration =>
    obtain ⟨s, -, rfl, rfl⟩ := decodeBuiltIn_enumeration_iff.1 h
    exact through_text (c := .text s) h
  | binary | bits | identityref | instanceIdentifier | leafref | string =>
    obtain ⟨c, rfl, rfl⟩ := eq_ofCoded_of_decodeBuiltIn h trivial
    exact through_text h
  | boolean | empty | union => exact absurd hb not_false

end Kinds

/-- **Values through texts.** A value that is decoded for an integer type, a decimal type, an enumeration or a type that is
written as a text has a text, unless it is an infinity or a not-a-number. Nothing but an equal value is decoded from this text,
where decimals are compared as numbers; and one is decoded, but for a decimal whose text has more digits than a decimal may
have. The text of a number is an optional minus sign and digits, with one point among them at most. -/
theorem leafValue_through_text {t : TypeDef} {b : BuiltIn} (hb : t.kind = .builtIn b) (htextual : IsTextual b)
    {path : List String} {x v : Value} (h : decodeLeaf (some t) path x = .ok v)
    (hfinite : ∀ d, v = .decimal d → d.IsFinite) :
    ∃ c, codedText v = .ok c ∧ (∀ w, decodeLeaf (some t) path (.ofCoded c) = .ok w → SameValue v w) ∧
      ((∃ w, decodeLeaf (some t) path (.ofCoded c) = .ok w) ↔ HasBriefText v) ∧
      (IsNumber v → ∃ s, c = .text s ∧ IsNumeral s) := by
  have hthrough := decodeBuiltIn_through htextual ((decodeLeaf_builtIn hb).1 h) hfinite
  simp only [decodeLeaf_builtIn hb]
  exact hthrough

/-- a negative zero with a positive power of ten has a text without an exponent, from which a zero is decoded -/
theorem gauge_through_text :
    decodeLeaf (some gaugeType) ["m:x"] (.text "-0E+5") = .ok (.decimal (.finite true 0 5)) ∧
    codedText (.decimal (.finite true 0 5)) = .ok (.text "-0") ∧ IsNumeral "-0" ∧
    ∃ w, decodeLeaf (some gaugeType) ["m:x"] (.text "-0") = .ok w ∧ SameValue (.decimal (.finite true 0 5)) w := by
  have hread : Decimal.read? "-0E+5" = some (.finite true 0 5) := by
    decide +kernel
  have hdecode : decodeLeaf (some gaugeType) ["m:x"] (.text "-0E+5") = .ok (.decimal (.finite true 0 5)) :=
    (decodeLeaf_builtIn rfl).2 (decodeBuiltIn_decimal64_iff.2 ⟨_, hread, rfl⟩)
  have hfinite : ∀ d, Value.decimal (.finite true 0 5) = .decimal d → d.IsFinite := by
    rintro d ⟨⟩
    exact ⟨_, _, _, rfl⟩
  have hbrief : HasBriefText (.decimal (.finite true 0 5)) := by
    rintro d ⟨⟩
    exact ⟨by decide, Or.inl rfl⟩
  have htext : codedText (.decimal (.finite true 0 5)) = .ok (.text "-0") := rfl
  obtain ⟨c, hc, hsame, hdecoded, hnumeral⟩ := leafValue_through_text (b := .decimal64) rfl trivial hdecode hfinite
  obtain rfl : c = .text "-0" := Except.ok.inj (hc.symm.trans htext)
  obtain ⟨s, hs, hnumeral⟩ := hnumeral (Or.inr ⟨_, rfl⟩)
  cases hs
  obtain ⟨w, hw⟩ := hdecoded.2 hbrief
  exact ⟨hdecode, htext, hnumeral, w, hw, hsame w hw⟩

/-- the largest power of ten is decoded, but its text, in which zeros take the place of the exponent, is refused -/
theorem gauge_too_long : gaugeType.kind = .builtIn .decimal64 ∧
    decodeLeaf (some gaugeType) ["m:x"] (.text "1e999999999999999999") =
      .ok (.decimal (.finite false 1 999999999999999999)) ∧
    ∃ s, codedText (.decimal (.finite false 1 999999999999999999)) = .ok (.text s) ∧ IsNumeral s ∧
      ∀ w, decodeLeaf (some gaugeType) ["m:x"] (.text s) ≠ .ok w := by
  have hread : decimalOf? (.text "1e999999999999999999") = some (.finite false 1 999999999999999999) := by
    decide +kernel
  have hdecode : decodeLeaf (some gaugeType) ["m:x"] (.text "1e999999999999999999") =
      .ok (.decimal (.finite false 1 999999999999999999)) :=
    (decodeLeaf_builtIn rfl).2 (decodeBuiltIn_decimal64_iff.2 ⟨_, hread, rfl⟩)
  have hlong : ¬HasBriefText (.decimal (.finite false 1 999999999999999999)) := by
    intro hbrief
    obtain ⟨-, hzero | hdigits⟩ := hbrief _ rfl
    · cases hzero
    · exact absurd hdigits (by decide)
  have hthrough : Through .decimal64 gaugeType.enums (.decimal (.finite false 1 999999999999999999)) :=
    through_decimal hread ⟨_, _, _, rfl⟩
  obtain ⟨c, hc, -, hdecoded, hnumeral⟩ := hthrough
  obtain ⟨s, rfl, hs⟩ := hnumeral (Or.inr ⟨_, rfl⟩)
  refine ⟨rfl, hdecode, s, hc, hs, fun w hw => hlong (hdecoded.1 ⟨w, ?_⟩)⟩
  exact (decodeLeaf_builtIn rfl).1 hw

end YangDesign.Instance
