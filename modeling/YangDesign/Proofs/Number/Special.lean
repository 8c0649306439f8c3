/-
Infinities and not-a-numbers among the decimals that are read.

`NamesSpecial`: a text is a sign and one of the words `inf`, `infinity`, `nan` and `snan`, the latter two with digits after
them. A text that is read gives a decimal that is not finite exactly if it is such a word (`not_isFinite_iff`), and the text of
a double is one exactly if the double is not finite (`namesSpecial_text_iff`).
-/
import YangDesign.Number.Shortest
import YangDesign.Proofs.Number.Numerals

namespace YangDesign.Number

open Text

/-- a word for an infinity, or one for a not-a-number, which digits may follow -/
def IsSpecialWord (cs : List Char) : Prop :=
  cs = "inf".toList ∨ cs = "infinity".toList ∨
    ∃ ds, AllDigits ds ∧ (cs = "nan".toList ++ ds ∨ cs = "snan".toList ++ ds)

/-- a text that stands for an infinity or a not-a-number: a special word in letters of either case after an optional sign -/
def NamesSpecial (s : String) : Prop :=
  IsSpecialWord ((takeSign (unadorned s)).2.map Char.toLower)

/-! ## Words -/

theorem digitsIn?_isSome_iff {cs : List Char} : (digitsIn? 10 cs).isSome = true ↔ AllDigits cs := by
  induction cs with
  | nil => exact iff_of_true rfl (List.forall_mem_nil _)
  | cons c cs ih =>
    have hcs : digitsIn? 10 (c :: cs) = (asciiDigit? 10 c).bind fun d => (digitsIn? 10 cs).bind fun ds => some (d :: ds) := by
      rw [digitsIn?, List.mapM_cons]
      rfl
    have hall : AllDigits (c :: cs) ↔ c.isDigit = true ∧ AllDigits cs := List.forall_mem_cons
    rw [hcs, hall, ← ih]
    cases hc : c.isDigit with
    | true => cases hds : digitsIn? 10 cs <;> simp [asciiDigit?_of_isDigit hc]
    | false => simp [asciiDigit?_of_not_isDigit hc]

/-- the words that are read are special ones, and stand for no finite number -/
theorem special_of_ofWord? {negative : Bool} {cs : List Char} {d : Decimal} (h : Decimal.ofWord? negative cs = some d) :
    IsSpecialWord cs ∧ ¬d.IsFinite := by
  obtain ⟨rfl, hword⟩ | ⟨signaling, ds, _, rfl, hds, rfl, -⟩ := Decimal.ofWord?_cases h
  · exact ⟨hword.imp_right Or.inl, fun ⟨_, _, _, h⟩ => by cases h⟩
  · have hall : AllDigits ds := digitsIn?_isSome_iff.1 (Option.isSome_of_eq_some hds)
    refine ⟨Or.inr (Or.inr ⟨ds, hall, ?_⟩), fun ⟨_, _, _, h⟩ => by cases h⟩
    cases signaling with
    | false => exact Or.inl rfl
    | true => exact Or.inr rfl

/-- a special word begins with a letter that no numeral has -/
theorem IsSpecialWord.first {cs : List Char} (h : IsSpecialWord (cs.map Char.toLower)) :
    ∃ c rest, cs = c :: rest ∧ ¬IsNumeric c := by
  have hletter : ∀ c : Char, c.toLower ∈ ['i', 'n', 's'] → ¬IsNumeric c := by
    intro c hc hnumeric
    have hlower : c.toLower = c := by
      refine dif_neg fun hupper => ?_
      have hcode : 65 ≤ c.toNat ∧ c.toNat ≤ 90 := hupper
      rcases hnumeric with hdigit | hother
      · have := (isDigit_range hdigit).2
        omega
      · simp only [List.mem_cons, List.not_mem_nil, or_false] at hother
        rcases hother with rfl | rfl | rfl | rfl <;> exact absurd hcode (by decide)
    rw [hlower] at hc
    simp only [List.mem_cons, List.not_mem_nil, or_false] at hc
    rcases hc with rfl | rfl | rfl <;> exact absurd hnumeric (by simp [IsNumeric])
  have hfirst : ∃ c rest, cs.map Char.toLower = c :: rest ∧ c ∈ ['i', 'n', 's'] := by
    rcases h with h | h | ⟨ds, -, h | h⟩
    · exact ⟨'i', _, h, by decide⟩
    · exact ⟨'i', _, h, by decide⟩
    · exact ⟨'n', _, h, by decide⟩
    · exact ⟨'s', _, h, by decide⟩
  obtain ⟨c, rest, hcs, hc⟩ := hfirst
  obtain ⟨c', cs', rfl, rfl, -⟩ := List.map_eq_cons_iff.1 hcs
  exact ⟨c', cs', rfl, hletter c' hc⟩

/-- a special word is no number -/
theorem literal_of_special {cs : List Char} (h : IsSpecialWord ((takeSign cs).2.map Char.toLower)) :
    Literal.read? cs = none := by
  obtain ⟨c, rest, hword, hc⟩ := h.first
  have hpoint : c ≠ '.' := by
    rintro rfl
    exact hc (Or.inr (by decide))
  have hdigit : asciiDigit? 10 c = none :=
    asciiDigit?_of_not_isDigit (Bool.eq_false_iff.2 fun hdigit => hc (Or.inl hdigit))
  have hspan : spanDigits (c :: rest) = ([], c :: rest) := by
    rw [spanDigits, hdigit]
  have hsplit : takeSign cs = ((takeSign cs).1, c :: rest) := by
    rw [← hword]
  rw [Literal.read?, hsplit]
  simp [hspan, hpoint]

/-- **Special decimals.** What is read from a text is no finite number exactly if the text is a special word. -/
theorem not_isFinite_iff {s : String} {d : Decimal} (h : Decimal.read? s = some d) : ¬d.IsFinite ↔ NamesSpecial s := by
  rw [Decimal.read?_eq] at h
  constructor
  · intro hd
    split at h
    · obtain ⟨rfl, -⟩ := Decimal.ofLiteral?_eq_some_iff.1 h
      exact absurd ⟨_, _, _, rfl⟩ hd
    · exact (special_of_ofWord? h).1
  · intro hs
    rw [literal_of_special hs] at h
    exact (special_of_ofWord? h).2

/-! ## Doubles -/

/-- a finite double, neither an infinity nor a not-a-number -/
def Binary64.IsFinite (x : Binary64) : Prop :=
  ∃ negative m e, x = .finite negative m e

theorem IsNumeric.of_digits {cs : List Char} (h : AllDigits cs) : ∀ c ∈ cs, IsNumeric c := fun c hc => Or.inl (h c hc)

theorem numeric_append {cs ds : List Char} (hcs : ∀ c ∈ cs, IsNumeric c) (hds : ∀ c ∈ ds, IsNumeric c) :
    ∀ c ∈ cs ++ ds, IsNumeric c := fun c hc => (List.mem_append.1 hc).elim (hcs c) (hds c)

theorem numeric_cons {c : Char} {cs : List Char} (hc : IsNumeric c) (hcs : ∀ c ∈ cs, IsNumeric c) :
    ∀ d ∈ c :: cs, IsNumeric d := List.forall_mem_cons.2 ⟨hc, hcs⟩

theorem numeric_positional {ds : List Char} (h : AllDigits ds) (point : Int) : ∀ c ∈ positional ds point, IsNumeric c := by
  have hpoint : IsNumeric '.' := Or.inr (by decide)
  have hzero : IsNumeric '0' := Or.inl (by decide)
  unfold positional
  split
  · exact numeric_cons hzero (numeric_cons hpoint (.of_digits ((allDigits_zeros _).append h)))
  · split
    · exact numeric_append (.of_digits fun c hc => h c (List.mem_of_mem_take hc))
        (numeric_cons hpoint (.of_digits fun c hc => h c (List.mem_of_mem_drop hc)))
    · exact numeric_append (.of_digits (h.append (allDigits_zeros _)))
        (numeric_cons hpoint (numeric_cons hzero (List.forall_mem_nil _)))

theorem numeric_exponential {ds : List Char} (h : AllDigits ds) (point : Int) : ∀ c ∈ exponential ds point, IsNumeric c := by
  have hsign : IsNumeric (if point - 1 < 0 then '-' else '+') := Or.inr (by split <;> decide)
  have hexponent : ∀ c ∈ padStart 2 '0' (Nat.toDigits 10 (point - 1).natAbs), IsNumeric c :=
    .of_digits ((allDigits_zeros _).append (allDigits_toDigits _))
  unfold exponential
  refine numeric_append ?_ (numeric_cons (Or.inr (by decide)) (numeric_cons hsign hexponent))
  split
  · rename_i d d' rest
    exact numeric_cons (Or.inl (h d List.mem_cons_self))
      (numeric_cons (Or.inr (by decide)) (.of_digits fun c hc => h c (List.mem_cons_of_mem _ hc)))
  · exact .of_digits h

theorem numeric_text (negative : Bool) (m : Nat) (e : Int) :
    ∀ c ∈ (Binary64.finite negative m e).text.toList, IsNumeric c := by
  rw [Binary64.text, String.toList_ofList]
  refine numeric_append ?_ ?_
  · split
    · exact numeric_cons (Or.inr (by decide)) (List.forall_mem_nil _)
    · exact List.forall_mem_nil _
  · split
    · have hzero : IsNumeric '0' := Or.inl (by decide)
      exact numeric_cons hzero (numeric_cons (Or.inr (by decide)) (numeric_cons hzero (List.forall_mem_nil _)))
    · dsimp only
      split
      · exact numeric_positional (allDigits_toDigits _) _
      · exact numeric_exponential (allDigits_toDigits _) _

theorem takeSign_subset (cs : List Char) : (takeSign cs).2 ⊆ cs := by
  unfold takeSign
  split
  · exact List.subset_cons_self _ _
  · exact List.subset_cons_self _ _
  · exact List.Subset.refl _

theorem not_namesSpecial_of_numeric {s : String} (h : ∀ c ∈ s.toList, IsNumeric c) : ¬NamesSpecial s := by
  intro hs
  obtain ⟨c, rest, hword, hc⟩ := IsSpecialWord.first hs
  rw [unadorned_of_numeric h] at hword
  exact hc (h c (takeSign_subset _ (hword ▸ List.mem_cons_self)))

/-- the text of a double is a special word exactly if the double is not finite -/
theorem namesSpecial_text_iff (x : Binary64) : NamesSpecial x.text ↔ ¬x.IsFinite := by
  cases x with
  | finite negative m e =>
    exact iff_of_false (not_namesSpecial_of_numeric (numeric_text negative m e)) fun h => h ⟨_, _, _, rfl⟩
  | infinity negative =>
    refine iff_of_true ?_ (fun ⟨_, _, _, h⟩ => by cases h)
    cases negative <;> exact Or.inl (by decide)
  | nan => exact iff_of_true (Or.inr (Or.inr ⟨[], List.forall_mem_nil _, Or.inl (by decide)⟩)) nofun

end YangDesign.Number
