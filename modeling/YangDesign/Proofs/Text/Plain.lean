/-
Plain text holds ASCII without tabs and line feeds, and plain text of plain text is itself.

Each character leaves characters on its own: itself, one that stands for it, or none (`mem_plainPart`). Decomposition leaves
letters and signs only (`base_printing`), so it makes neither a tab nor a character that ends a line. Of the characters that end
a line only the line feed is replaced: the others vanish, except those of ASCII, such as the carriage return, which stay. So
plain text is a single line exactly if none of these was in the text (`plain_normalizes`).
-/
import Mathlib.Data.List.Basic
import YangDesign.Text.Lines
import YangDesign.Text.Plain

namespace YangDesign.Text

/-- a character of ASCII, other than a tab and a line feed -/
def IsPlain (c : Char) : Prop :=
  c.toNat < 128 ∧ c ≠ '\t' ∧ c ≠ '\n'

/-- what is left of one character -/
def plainPart (c : Char) : List Char :=
  asciiPart (plainBreaks c)

theorem toList_plain (s : String) : (plain s).toList = s.toList.flatMap plainPart := by
  rw [plain, String.toList_ofList, List.flatMap_map]
  rfl

/-! ## One character -/

theorem base_printing : ∀ p ∈ composedFrom, 32 < (Char.ofNat p.1).toNat ∧ (Char.ofNat p.1).toNat < 127 := by
  decide

/-- what is left of a character is the character, or a letter or sign -/
theorem mem_asciiPart {c d : Char} (h : d ∈ asciiPart c) :
    d = c ∧ c.toNat < 128 ∨ 32 < d.toNat ∧ d.toNat < 127 := by
  unfold asciiPart at h
  split at h
  · rename_i hc
    exact Or.inl ⟨List.mem_singleton.1 h, hc⟩
  · split at h
    · rename_i base composed hbase
      obtain rfl := List.mem_singleton.1 h
      exact Or.inr (base_printing _ (List.mem_of_find?_eq_some hbase))
    · cases h

theorem isPlain_of_printing {d : Char} (hlow : 32 < d.toNat) (hhigh : d.toNat < 127) : IsPlain d ∧ endsLine d = false := by
  refine ⟨⟨by omega, ?_, ?_⟩, ?_⟩
  · rintro rfl
    exact absurd hlow (by decide)
  · rintro rfl
    exact absurd hlow (by decide)
  · simp only [endsLine, Bool.or_eq_false_iff, Bool.and_eq_false_iff, decide_eq_false_iff_not, beq_eq_false_iff_ne]
    omega

/-- a plain character stays -/
theorem IsPlain.part {c : Char} (h : IsPlain c) : plainPart c = [c] := by
  obtain ⟨hascii, htab, hline⟩ := h
  have hquote : c ≠ '\u2019' := by
    rintro rfl
    exact absurd hascii (by decide)
  have hsame : plainBreaks c = c := by simp [plainBreaks, hquote, htab, hline]
  rw [plainPart, hsame, asciiPart, if_pos hascii]

/-- whatever is left of a character is plain, and ends a line only if it is the character -/
theorem mem_plainPart {c d : Char} (h : d ∈ plainPart c) : IsPlain d ∧ (endsLine d = true → d = c) := by
  unfold plainPart plainBreaks at h
  split at h
  · obtain rfl : d = '\x27' := List.mem_singleton.1 h
    exact ⟨by unfold IsPlain; decide, fun hd => absurd hd (by decide)⟩
  · split at h
    · obtain rfl : d = ' ' := List.mem_singleton.1 h
      exact ⟨by unfold IsPlain; decide, fun hd => absurd hd (by decide)⟩
    · rename_i hbreak
      rcases mem_asciiPart h with ⟨rfl, hascii⟩ | ⟨hlow, hhigh⟩
      · simp only [Bool.or_eq_true, decide_eq_true_eq, not_or] at hbreak
        exact ⟨⟨hascii, hbreak.2, hbreak.1⟩, fun _ => rfl⟩
      · obtain ⟨hplain, hends⟩ := isPlain_of_printing hlow hhigh
        exact ⟨hplain, fun hd => absurd (hends.symm.trans hd) (by decide)⟩

/-! ## Texts -/

theorem isPlain_of_mem_plain {s : String} {c : Char} (h : c ∈ (plain s).toList) : IsPlain c := by
  rw [toList_plain, List.mem_flatMap] at h
  obtain ⟨_, -, hc⟩ := h
  exact (mem_plainPart hc).1

/-- a text of plain characters stays -/
theorem plain_eq_self {s : String} (h : ∀ c ∈ s.toList, IsPlain c) : plain s = s := by
  have hparts : s.toList.flatMap plainPart = s.toList.flatMap fun c => [c] :=
    List.flatMap_congr fun c hc => (h c hc).part
  rw [← String.toList_inj, toList_plain, hparts, List.flatMap_singleton']

/-- of the characters that end a line, the plain ones stay -/
theorem mem_plain_of_endsLine {c : Char} (h : endsLine c = true) (s : String) :
    c ∈ (plain s).toList ↔ c ∈ s.toList ∧ IsPlain c := by
  constructor
  · intro hc
    refine ⟨?_, isPlain_of_mem_plain hc⟩
    rw [toList_plain, List.mem_flatMap] at hc
    obtain ⟨d, hd, hcd⟩ := hc
    rw [(mem_plainPart hcd).2 h]
    exact hd
  · rintro ⟨hc, hplain⟩
    rw [toList_plain, List.mem_flatMap]
    exact ⟨c, hc, by rw [hplain.part]; exact List.mem_singleton_self c⟩

/-- **Plain text.** Whatever the text, plain text of it is ASCII without tabs and line feeds, and plain text of that is the same.
Of the other characters that end a line, it holds those of ASCII that the text holds; so it is a single line exactly if every
character that ends a line in the text is a line feed or not in ASCII. -/
theorem plain_normalizes (s : String) :
    (∀ c ∈ (plain s).toList, c.toNat < 128 ∧ c ≠ '\t' ∧ c ≠ '\n') ∧ plain (plain s) = plain s ∧
    (∀ c, endsLine c = true → (c ∈ (plain s).toList ↔ c ∈ s.toList ∧ c.toNat < 128 ∧ c ≠ '\n')) ∧
    ((∀ c ∈ (plain s).toList, endsLine c = false) ↔
      ∀ c ∈ s.toList, endsLine c = true → c = '\n' ∨ 128 ≤ c.toNat) := by
  have hplain : ∀ c ∈ (plain s).toList, IsPlain c := fun c hc => isPlain_of_mem_plain hc
  have hends : ∀ c, endsLine c = true → (c ∈ (plain s).toList ↔ c ∈ s.toList ∧ c.toNat < 128 ∧ c ≠ '\n') := by
    intro c hc
    have htab : c ≠ '\t' := by
      rintro rfl
      exact absurd hc (by decide)
    rw [mem_plain_of_endsLine hc, IsPlain, and_iff_right htab]
  refine ⟨hplain, plain_eq_self hplain, hends, fun hnone c hc hend => ?_, fun hothers c hc => ?_⟩
  · by_contra hkept
    rw [not_or, Nat.not_le] at hkept
    exact absurd (hnone c ((hends c hend).2 ⟨hc, hkept.2, hkept.1⟩)) (by rw [hend]; decide)
  · by_contra hend
    rw [Bool.not_eq_false] at hend
    obtain ⟨hmem, hascii, hline⟩ := (hends c hend).1 hc
    rcases hothers c hmem hend with rfl | hhigh
    · exact hline rfl
    · omega

/-- a carriage return stays, so that this text has two lines -/
theorem plain_return_kept :
    plain "a\rb" = "a\rb" ∧ '\r' ∈ (plain "a\rb").toList ∧ anyLinesOf (plain "a\rb").toList = [['a'], ['b']] := by
  obtain ⟨-, -, hends, -⟩ := plain_normalizes "a\rb"
  exact ⟨by cbv, (hends '\r' rfl).2 (by decide), by cbv⟩

end YangDesign.Text
