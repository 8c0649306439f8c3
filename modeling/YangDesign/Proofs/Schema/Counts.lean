/-
How often each keyword stands in a module.

A count takes the statements from a list that grows by what stands below the one counted last, so it meets them in another
order than a walk over the module does. How often a keyword is counted in the end (`Counting.number`) is known at every turn:
it is the count so far, and how often the keyword stands in what is left. A turn keeps it (`number_turn`), and keeps how many
statements are counted in all (`total_turn`). What every turn keeps holds at the end (`finish_of_turn`), which comes after as
many turns as there are statements (`turns_finish`). So the counts are those of a walk over the module
(`ModuleDecl.counts_exact`).
-/
import Mathlib.Tactic
import YangDesign.Schema.Document

namespace YangDesign.Schema

/-! ## One more of a keyword -/

theorem find?_tally (counts : Assoc String Nat) (keyword k : String) :
    (tally counts keyword).find? k = if keyword = k then some ((counts.find? k).getD 0 + 1) else counts.find? k := by
  rw [tally, Assoc.find?_insert]
  split
  · rename_i h
    rw [h]
  · rfl

theorem sum_tally (counts : Assoc String Nat) (keyword : String) :
    ((tally counts keyword).toList.map (·.2)).sum = (counts.toList.map (·.2)).sum + 1 := by
  obtain ⟨ps⟩ := counts
  simp only [tally, Assoc.insert, Assoc.find?]
  induction ps with
  | nil => rfl
  | cons p ps ih =>
    obtain ⟨k, n⟩ := p
    by_cases hk : k = keyword
    · simp only [Assoc.insertIn, Assoc.findIn, if_pos hk, Option.getD_some, List.map_cons, List.sum_cons]
      omega
    · simp only [Assoc.insertIn, Assoc.findIn, if_neg hk, List.map_cons, List.sum_cons, ih]
      omega

namespace Counting

/-! ## One turn -/

/-- how often a keyword is counted in the end -/
def number (keyword : String) (c : Counting) : Nat :=
  (c.counts.find? keyword).getD 0 + ((Statement.allIn c.pending).map Statement.keyword).count keyword

/-- how many statements are counted in the end -/
def total (c : Counting) : Nat :=
  (c.counts.toList.map (·.2)).sum + c.left

/-- keywords stand once in the counts, and only those that were counted -/
structure Proper (c : Counting) : Prop where
  nodup : c.counts.keys.Nodup
  pos : ∀ k n, c.counts.find? k = some n → 0 < n

theorem number_turn (keyword : String) (c : Counting) : c.turn.number keyword = c.number keyword := by
  obtain ⟨_ | ⟨s, pending⟩, counts⟩ := c
  · rfl
  · -- the statement goes from what is left into the counts, so one part grows by what the other loses
    have hleft := ((perm_turn s pending).map Statement.keyword).count_eq keyword
    simp only [List.map_cons, List.count_cons, beq_iff_eq] at hleft
    simp only [number, turn, hleft, find?_tally]
    by_cases hs : s.keyword = keyword
    · simp only [if_pos hs, Option.getD_some]
      omega
    · simp only [if_neg hs]
      omega

theorem total_turn (c : Counting) : c.turn.total = c.total := by
  obtain ⟨_ | ⟨s, pending⟩, counts⟩ := c
  · rfl
  · have hleft := left_turn s pending counts
    have hsum : ((turn ⟨s :: pending, counts⟩).counts.toList.map (·.2)).sum = (counts.toList.map (·.2)).sum + 1 :=
      sum_tally counts s.keyword
    simp only [total, hsum]
    omega

theorem Proper.turn {c : Counting} (h : c.Proper) : c.turn.Proper := by
  obtain ⟨_ | ⟨s, pending⟩, counts⟩ := c
  · exact h
  · refine ⟨?_, fun k n hn => ?_⟩
    · change (counts.insert s.keyword _).keys.Nodup
      rw [Assoc.keys_insert]
      split
      · exact h.nodup
      · rename_i hnew
        refine List.nodup_append.2 ⟨h.nodup, by simp, fun a ha b hb => ?_⟩
        rintro rfl
        exact hnew (List.mem_singleton.1 hb ▸ ha)
    · change (tally counts s.keyword).find? k = some n at hn
      rw [find?_tally] at hn
      split at hn
      · cases hn
        exact Nat.succ_pos _
      · exact h.pos k n hn

/-! ## All turns -/

/-- what every turn keeps holds at the end -/
theorem finish_of_turn {P : Counting → Prop} (hturn : ∀ c, P c → P c.turn) (c : Counting) (h : P c) : P ⟨[], c.finish⟩ := by
  fun_induction finish c with
  | case1 counts => exact h
  | case2 s pending counts ih => exact ih (hturn _ h)

/-- a count ends after as many turns as there are statements left -/
theorem turns_finish (c : Counting) : turn^[c.left] c = ⟨[], c.finish⟩ := by
  fun_induction finish c with
  | case1 counts => rfl
  | case2 s pending counts ih => rw [← left_turn, Function.iterate_succ_apply, ih]

/-- in the end a keyword has the number that it had at the start -/
theorem find?_finish (keyword : String) (c : Counting) : (c.finish.find? keyword).getD 0 = c.number keyword :=
  finish_of_turn (P := fun d => d.number keyword = c.number keyword) (fun d hd => (number_turn keyword d).trans hd) c rfl

theorem sum_finish (c : Counting) : (c.finish.toList.map (·.2)).sum = c.total :=
  finish_of_turn (P := fun d => d.total = c.total) (fun d hd => (total_turn d).trans hd) c rfl

theorem Proper.finish {c : Counting} (h : c.Proper) : Proper ⟨[], c.finish⟩ :=
  finish_of_turn (P := Proper) (fun _ => Proper.turn) c h

/-! ## From the start -/

theorem left_start (ss : List Statement) : (start ss).left = (Statement.allIn ss).length :=
  (Statement.perm_allIn_reverse ss).length_eq

theorem number_start (keyword : String) (ss : List Statement) :
    (start ss).number keyword = ((Statement.allIn ss).map Statement.keyword).count keyword := by
  rw [number, start, ((Statement.perm_allIn_reverse ss).map Statement.keyword).count_eq]
  exact Nat.zero_add _

theorem total_start (ss : List Statement) : (start ss).total = (Statement.allIn ss).length := by
  rw [total, left_start]
  exact Nat.zero_add _

theorem proper_start (ss : List Statement) : (start ss).Proper :=
  ⟨List.nodup_nil, fun _ _ h => nomatch h⟩

end Counting

/-- **Every statement is counted once.** The count of a module ends after as many turns as there are statements in it, those
at any depth included. Then the count of a keyword is the number of statements of that keyword (0 if it has no count), the
keywords with a count are those of the statements, each once, and the counts sum up to the number of all statements. -/
theorem ModuleDecl.counts_exact (m : ModuleDecl) :
    Counting.turn^[(Statement.allIn m.statements).length] (.start m.statements) = ⟨[], m.counts⟩ ∧
    (∀ keyword, (m.counts.find? keyword).getD 0 = ((Statement.allIn m.statements).map Statement.keyword).count keyword) ∧
    (∀ keyword, keyword ∈ m.counts.keys ↔ keyword ∈ (Statement.allIn m.statements).map Statement.keyword) ∧
    m.counts.keys.Nodup ∧ (m.counts.toList.map (·.2)).sum = (Statement.allIn m.statements).length := by
  have hproper : Counting.Proper ⟨[], m.counts⟩ := (Counting.proper_start m.statements).finish
  have hnumber : ∀ keyword, (m.counts.find? keyword).getD 0 =
      ((Statement.allIn m.statements).map Statement.keyword).count keyword := fun keyword =>
    (Counting.find?_finish keyword _).trans (Counting.number_start keyword m.statements)
  refine ⟨?_, hnumber, fun keyword => ?_, hproper.nodup, ?_⟩
  · rw [← Counting.left_start]
    exact Counting.turns_finish _
  · rw [Assoc.mem_keys_iff, ← List.count_pos_iff, ← hnumber]
    cases hfind : m.counts.find? keyword with
    | none => simp
    | some n => simpa using hproper.pos keyword n hfind
  · exact (Counting.sum_finish _).trans (Counting.total_start m.statements)

end YangDesign.Schema
