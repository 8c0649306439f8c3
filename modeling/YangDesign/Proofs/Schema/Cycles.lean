/-
Circular typedefs.

A typedef leads to the one that the name of its type denotes by static scope; a typedef that leads back to itself is
circular. `Document.resolve_circular`: resolution never comes to the end of its steps, so it ends; it refuses a typedef as
circular only if that typedef of the document leads back to itself; and a document in which some typedef does is refused,
wherever in its modules the cycle runs.
-/
import YangDesign.Proofs.Schema.StaticScope

namespace YangDesign.Schema

open Relation

namespace Document

variable {d : Document}

/-- more steps than suffice change nothing, nor does what is answered where none is left -/
theorem resolve_steps (d : Document) (spent : Surroundings → Declaration → Remembering TypeDef) (more : Nat) :
    (d.resolveWith fun env x => recallWithin env (spent env) (env.stepsFor x + more) [] x).run' .empty = d.resolve := by
  rw [Document.resolve_eq]
  exact d.run_resolveWith fun env x hx => repeats_afresh hx more

/-- each typedef of a document is a use with its type in a tree that the document resolves to -/
theorem has_of_resolve (hd : d.Apart) (hplain : d.CasesPlain) {t : Tree} (h : d.resolve = .ok t) :
    ∃ env, d.surroundings = .ok env ∧ ∀ x ∈ d.typedefs, x.Housed ∧ x.scope.Distinct ∧
      ∃ type, x.Has env.Binds type := by
  obtain ⟨env, henv, htyped⟩ := (outcome_resolve hd hplain).answered h
  refine ⟨env, henv, fun x hx => ?_⟩
  obtain ⟨u, hu, hdecl⟩ := List.mem_filterMap.1 hx
  obtain ⟨k, hk, rfl⟩ := List.mem_iff_getElem.1 hu
  have hn := htyped.get hk (htyped.length_eq ▸ hk)
  obtain ⟨type, htype, -⟩ := hn.type
  have hdistinct := hn.distinct
  have hhoused := hn.housed x hdecl
  rw [List.get_eq_getElem] at htype hdistinct
  unfold Use.declaration? at hdecl
  split at hdecl
  · rename_i type' hconstruct
    cases hdecl
    unfold Use.Has at htype
    rw [hconstruct] at htype
    exact ⟨hhoused, hdistinct, type, htype⟩
  · cases hdecl

/-- **Resolution ends, and refuses circular typedefs and no others as circular.** -/
theorem resolve_circular (d : Document) (hd : d.Apart) (hplain : d.CasesPlain) :
    (∀ (spent : Surroundings → Declaration → Remembering TypeDef) (more : Nat),
      (d.resolveWith fun env x => recallWithin env (spent env) (env.stepsFor x + more) [] x).run' .empty = d.resolve) ∧
    (∀ name path, d.resolve = .error (.unresolved (.circularTypedef name) path) →
      ∃ x ∈ d.typedefs, x.typedef.name = name ∧ x.typedef.path = path ∧ TransGen (Leads d.Binds) x x) ∧
    ∀ x ∈ d.typedefs, TransGen (Leads d.Binds) x x → ∃ cause path, d.resolve = .error (.unresolved cause path) := by
  refine ⟨d.resolve_steps, fun name path h => (outcome_resolve hd hplain).failed h name rfl, fun x hx hback => ?_⟩
  cases h : d.resolve with
  | ok t =>
    obtain ⟨env, henv, hall⟩ := has_of_resolve hd hplain h
    obtain ⟨-, hdistinct, type, htype⟩ := hall x hx
    exact absurd ((leads_iff henv hd hdistinct).1 hback) (htype.not_leads_back env.binds_functional)
  | error e =>
    cases e with
    | unresolved cause path => exact ⟨cause, path, rfl⟩
    | undeclared name => exact ((outcome_resolve hd hplain).failed h).elim

/-- two modules in which a typedef at the top of each asks for that of the other, and one inside a container for one of them -/
def tangled : Document :=
  ⟨[⟨"m", "urn:m", "m", none, [
      .named "box" none .container [
        .named "share" none (.typedef (.mk "rate" none none)) [],
        .named "level" none (.leaf (.mk "share" none none)) []],
      .named "rate" none (.typedef (.mk "n:share" none none)) []]⟩,
    ⟨"n", "urn:n", "n", none, [
      .named "share" none (.typedef (.mk "m:rate" none none)) []]⟩]⟩

theorem tangled_refused : tangled.Apart ∧ tangled.CasesPlain ∧
    (∃ x ∈ tangled.typedefs, x.typedef.name = "rate" ∧ TransGen (Leads tangled.Binds) x x) ∧
    ∃ cause path, tangled.resolve = .error (.unresolved cause path) := by
  have hapart : tangled.Apart := by decide
  have hplain : tangled.CasesPlain := by decide
  obtain ⟨-, honly, hcycle⟩ := resolve_circular tangled hapart hplain
  obtain ⟨x, hx, hname, -, hback⟩ := honly "rate" ["rate"] rfl
  exact ⟨hapart, hplain, ⟨x, hx, hname, hback⟩, hcycle x hx hback⟩

end Document

end YangDesign.Schema
