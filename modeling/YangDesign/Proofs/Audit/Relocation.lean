/-
The verdict on a design does not depend on its namespace.

The rules compare names and show them without their namespaces. So a design in other namespaces (`Definition.relocate`) has the
same issues, if these are told apart as before and the vocabulary stays where it is (`verdict_relocate`).
-/
import YangDesign.Audit.Rule
import YangDesign.Proofs.Design.Relocation

namespace YangDesign.Audit

open Design

variable {ρ : String → String}

/-! ## Repeated names -/

theorem eraseDups_map {f : SymbolicName → SymbolicName} (hf : Function.Injective f) (names : List SymbolicName) :
    (names.map f).eraseDups = names.eraseDups.map f := by
  generalize hlen : names.length = len
  induction len using Nat.strong_induction_on generalizing names with
  | _ len ih =>
    cases names with
    | nil => rfl
    | cons n names =>
      have hkept : (names.map f).filter (fun m => !m == f n) = (names.filter fun m => !m == n).map f := by
        rw [List.filter_map]
        refine congrArg (List.map f) (List.filter_congr fun m _ => ?_)
        simp [hf.eq_iff]
      have hshort : (names.filter fun m => !m == n).length < len := by
        rw [← hlen, List.length_cons]
        exact Nat.lt_succ_of_le (List.length_filter_le _ _)
      rw [List.map_cons, List.eraseDups_cons, List.eraseDups_cons, hkept, ih _ hshort _ rfl, List.map_cons]

/-- names in other namespaces are repeated as before -/
theorem repeated_relocate (hρ : Relocation ρ) {names : List SymbolicName} {issue : SymbolicName → Nat → Issue}
    (hissue : ∀ n k, issue (n.relocate ρ) k = issue n k) :
    repeated (names.map (SymbolicName.relocate ρ)) issue = repeated names issue := by
  have hf := SymbolicName.relocate_injective hρ
  rw [repeated, repeated, occurrences, occurrences, eraseDups_map hf, List.map_map, List.filterMap_map, List.filterMap_map]
  refine List.filterMap_congr fun n _ => ?_
  simp only [Function.comp, List.count_map_of_injective _ _ hf, hissue]

mutual

theorem memberListIssues_relocate (hρ : Relocation ρ) (path : String) (position : Nat) : ∀ ms : List Member,
    memberListIssues path position (Member.relocateAll ρ ms) = memberListIssues path position ms
  | ms => by
    rw [memberListIssues, memberListIssues, Member.symbolic_relocateAll, repeated_relocate hρ fun _ _ => rfl,
      nestedIssues_relocate hρ path position ms]

theorem nestedIssues_relocate (hρ : Relocation ρ) (path : String) (position : Nat) : ∀ ms : List Member,
    nestedIssues path position (Member.relocateAll ρ ms) = nestedIssues path position ms
  | [] => by rw [Member.relocateAll]
  | m :: ms => by
    rw [Member.relocateAll, nestedIssues, nestedIssues, memberIssues_relocate hρ path position m,
      nestedIssues_relocate hρ path position ms]

theorem memberIssues_relocate (hρ : Relocation ρ) (path : String) (position : Nat) : ∀ m : Member,
    memberIssues path position (m.relocate ρ) = memberIssues path position m
  | .variableNode .. => by rw [Member.relocate, memberIssues, memberIssues]
  | .objectNode labels type references children => by
    rw [Member.relocate, memberIssues, memberIssues, Member.symbolic_relocateAll, repeated_relocate hρ fun _ _ => rfl,
      nestedIssues_relocate hρ _ position children]
    rfl

end

/-! ## References -/

section References

variable {doc doc' : ModelDocument} (hρ : Relocation ρ)
  (h : doc'.definitions.toList = doc.definitions.toList.map (Definition.relocate ρ))

include h

theorem numbered_relocate : doc'.numbered = doc.numbered.map fun (d, i) => (d.relocate ρ, i) := by
  rw [ModelDocument.numbered, ModelDocument.numbered, h, List.zipIdx_map]
  rfl

include hρ

theorem firstPosition?_relocate (n : SymbolicName) : firstPosition? doc' (n.relocate ρ) = firstPosition? doc n := by
  rw [firstPosition?, firstPosition?, h, List.findIdx?_map]
  refine congrArg (fun test => List.findIdx? test doc.definitions.toList) (funext fun d => ?_)
  simp [(SymbolicName.relocate_injective hρ).eq_iff]

/-- a design in other namespaces has the same issues by each rule -/
theorem check_relocate (rule : Rule) : rule.check doc' = rule.check doc := by
  have hnumbered := numbered_relocate h
  have hnames : doc'.definitions.toList.map (·.name) = (doc.definitions.toList.map (·.name)).map (SymbolicName.relocate ρ) := by
    rw [h, List.map_map, List.map_map]
    rfl
  cases rule with
  | uniqueNames =>
    rw [Rule.check, Rule.check, hnames, repeated_relocate hρ fun _ _ => rfl, hnumbered, List.flatMap_map]
    refine congrArg (_ ++ ·) (List.flatMap_congr fun ⟨d, i⟩ _ => ?_)
    dsimp only
    rw [Definition.children_relocate, memberListIssues_relocate hρ]
    rfl
  | backwardReferences =>
    rw [Rule.check, Rule.check, hnumbered, List.flatMap_map]
    refine List.flatMap_congr fun ⟨d, i⟩ _ => ?_
    dsimp only
    rw [Definition.typeReferences_relocate, List.filterMap_map]
    refine List.filterMap_congr fun r _ => ?_
    simp only [Function.comp, TypeReference.relocate, isBuiltIn_relocate hρ, firstPosition?_relocate hρ h]
    rfl
  | definedReferences =>
    rw [Rule.check, Rule.check, hnumbered, List.flatMap_map]
    refine List.flatMap_congr fun ⟨d, i⟩ _ => ?_
    dsimp only
    rw [Definition.typeReferences_relocate, List.filterMap_map]
    refine List.filterMap_congr fun r _ => ?_
    simp only [Function.comp, TypeReference.relocate, isBuiltIn_relocate hρ, firstPosition?_relocate hρ h]
    rfl
  | descriptions =>
    rw [Rule.check, Rule.check, hnumbered, List.filterMap_map]
    refine List.filterMap_congr fun ⟨d, i⟩ _ => ?_
    simp only [Function.comp, Definition.kind_relocate, undescribedIssue]
    rfl

/-- **The verdict does not depend on the namespace of a design.** -/
theorem verdict_relocate : verdict doc' = verdict doc :=
  List.flatMap_congr fun rule _ => check_relocate hρ h rule

end References

end YangDesign.Audit
