/-
What a check has seen when it answers. Checks are put together from parts; an answer of the whole comes from answers of the
parts, one lemma for each way of putting them together.
-/
import Mathlib.Tactic
import YangDesign.Input.Checked

namespace YangDesign.Input

open Text

namespace Checked

variable {α β : Type}

theorem ok_of_map {f : α → β} {c : Checked α} {b : β} (h : f <$> c = .ok b) : ∃ a, c = .ok a ∧ f a = b := by
  cases c with
  | ok a =>
    cases h
    exact ⟨a, rfl, rfl⟩
  | faulty fs => cases h
  | stopped r => cases h

theorem ok_of_seq {f : Checked (α → β)} {c : Checked α} {b : β} (h : f <*> c = .ok b) :
    ∃ g a, f = .ok g ∧ c = .ok a ∧ g a = b := by
  cases f with
  | ok g =>
    cases c with
    | ok a =>
      cases h
      exact ⟨g, a, rfl, rfl, rfl⟩
    | faulty fs => cases h
    | stopped r => cases h
  | faulty fs => cases c <;> cases h
  | stopped r => cases c <;> cases h

theorem ok_of_andThen {c : Checked α} {f : α → Checked β} {b : β} (h : c.andThen f = .ok b) :
    ∃ a, c = .ok a ∧ f a = .ok b := by
  cases c with
  | ok a => exact ⟨a, rfl, h⟩
  | faulty fs => cases h
  | stopped r => cases h

theorem ok_of_within {c : Checked α} {steps : List Step} {a : α} (h : c.within steps = .ok a) : c = .ok a := by
  cases c with
  | ok b => exact h
  | faulty fs => cases h
  | stopped r => cases h

theorem ok_of_refusedIf {condition : Bool} {cause : Cause} {a b : α} (h : refusedIf condition cause a = .ok b) :
    condition = false ∧ a = b := by
  unfold refusedIf at h
  split at h
  · cases h
  · rename_i hc
    cases h
    exact ⟨by simpa using hc, rfl⟩

end Checked

open Checked

variable {α β : Type}

theorem accepts_of_textOf {form : Form} {v : Value} {s : String} (h : textOf form v = .ok s) : form.accepts s = true := by
  obtain ⟨t, -, h⟩ := ok_of_andThen h
  obtain ⟨hf, rfl⟩ := ok_of_refusedIf h
  simpa using hf

theorem ok_of_object {expected : String} {check : Members → Checked α} {v : Value} {a : α}
    (h : object expected check v = .ok a) : ∃ ms, check ms = .ok a := by
  unfold object at h
  split at h
  · exact ⟨_, h⟩
  · cases h

theorem ok_of_required {name : String} {check : Value → Checked α} {ms : Members} {a : α}
    (h : required name check ms = .ok a) : ∃ v, check v = .ok a := by
  have h := ok_of_within h
  split at h
  · exact ⟨_, h⟩
  · cases h

theorem ok_of_defaulting {name : String} {default : α} {check : Value → Checked α} {ms : Members} {a : α}
    (h : defaulting name default check ms = .ok a) : a = default ∨ ∃ v, check v = .ok a := by
  unfold defaulting at h
  split at h
  · exact Or.inr ⟨_, ok_of_within h⟩
  · cases h
    exact Or.inl rfl

theorem ok_of_closed {known : List String} {ms : Members} {c : Checked α} {a : α} (h : closed known ms c = .ok a) :
    c = .ok a := by
  unfold closed at h
  split at h
  · split at h <;> cases h
  · split at h
    · exact h
    · cases c <;> cases h

theorem ok_of_itemsFrom {check : Value → Checked α} {i : Nat} {vs : List Value} {as : List α}
    (h : itemsFrom check i vs = .ok as) : ∀ a ∈ as, ∃ v, check v = .ok a := by
  induction vs generalizing i as with
  | nil =>
    cases h
    exact fun a ha => by cases ha
  | cons v vs ih =>
    obtain ⟨g, as', hg, has, rfl⟩ := ok_of_seq h
    obtain ⟨a, ha, rfl⟩ := ok_of_map hg
    exact List.forall_mem_cons.2 ⟨⟨v, ok_of_within ha⟩, ih has⟩

theorem ok_of_listOf {check : Value → Checked α} {v : Value} {as : List α} (h : listOf check v = .ok as) :
    ∀ a ∈ as, ∃ v, check v = .ok a := by
  unfold listOf at h
  split at h
  · exact ok_of_itemsFrom h
  · exact ok_of_itemsFrom h
  · exact ok_of_itemsFrom h
  · cases h

end YangDesign.Input
