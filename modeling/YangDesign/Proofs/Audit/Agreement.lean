/-
The verdict on a design agrees with the design.

A design made by appending has an index (`indexed_appendAll`), so the position that a rule looks up among the definitions is
the one in the index, and each reference that breaks the order is reported once, by the rule for late definitions or by the
rule for missing ones (`forall₂_lateReferences`, `forall₂_missingReferences`). Every issue of a rule has the code of the
rule (`code_of_mem_check`), every issue but a warning is an error. `verdict_agrees` puts these together: the design is valid
exactly if no reference breaks the order and no node has two members of one name.
-/
import YangDesign.Audit.Rule
import YangDesign.Proofs.Design.Positions

namespace YangDesign.Design

/-- the design after some definitions went to its end in order, each of them unless its name was taken -/
def ModelDocument.appendAll (doc : ModelDocument) (ds : List Definition) : ModelDocument :=
  ds.foldl (fun doc d => (doc.append d).getD doc) doc

theorem ModelDocument.Indexed.appendAll {doc : ModelDocument} (hi : doc.Indexed) (ds : List Definition) :
    (doc.appendAll ds).Indexed := by
  induction ds generalizing doc with
  | nil => exact hi
  | cons d ds ih =>
    refine ih ?_
    change ((doc.append d).getD doc).Indexed
    cases h : doc.append d with
    | none => exact hi
    | some doc' => exact hi.append h

theorem ModelDocument.indexed_appendAll (target : String) (namespaces : List Namespace) (ds : List Definition) :
    ((new target namespaces).appendAll ds).Indexed :=
  (indexed_new target namespaces).appendAll ds

/-- `ns` are the members of a node, or of a node somewhere below it; the node has the members `ms` -/
inductive Nested (ms : List Member) : List Member → Prop where
  | here : Nested ms ms
  | deeper {ns : List Member} {m : Member} : Nested ms ns → m ∈ ns → Nested ms m.children

theorem nested_iff {ms ns : List Member} : Nested ms ns ↔ ns = ms ∨ ∃ m ∈ ms, Nested m.children ns := by
  constructor
  · intro h
    induction h with
    | here => exact Or.inl rfl
    | deeper _ hm ih =>
      rcases ih with rfl | ⟨m', hm', h⟩
      · exact Or.inr ⟨_, hm, .here⟩
      · exact Or.inr ⟨m', hm', h.deeper hm⟩
  · rintro (rfl | ⟨m, hm, h⟩)
    · exact .here
    · induction h with
      | here => exact Nested.here.deeper hm
      | deeper _ hm' ih => exact ih.deeper hm'

/-- no two members have one name -/
def NamedApart (ms : List Member) : Prop :=
  (ms.map (·.labels.symbolic)).Nodup

end YangDesign.Design

namespace YangDesign.Audit

open Design

variable {doc : ModelDocument}

/-! ## Repeated names -/

theorem mem_repeated {names : List SymbolicName} {issue : SymbolicName → Nat → Issue} {x : Issue}
    (h : x ∈ repeated names issue) : ∃ n k, x = issue n k := by
  obtain ⟨⟨n, k⟩, -, h⟩ := List.mem_filterMap.1 h
  obtain ⟨-, h⟩ := Option.ite_none_right_eq_some.1 h
  exact ⟨n, k, (Option.some.inj h).symm⟩

/-- nothing is reported exactly if no name occurs twice -/
theorem repeated_eq_nil {names : List SymbolicName} {issue : SymbolicName → Nat → Issue} :
    repeated names issue = [] ↔ names.Nodup := by
  rw [List.nodup_iff_count_le_one]
  simp only [repeated, occurrences, List.filterMap_map, List.filterMap_eq_nil_iff, List.mem_eraseDups, Function.comp,
    ite_eq_right_iff, reduceCtorEq, imp_false, not_lt]
  refine ⟨fun h n => ?_, fun h n _ => h n⟩
  by_cases hn : n ∈ names
  · exact h n hn
  · rw [List.count_eq_zero.2 hn]
    exact Nat.zero_le 1

mutual

/-- the issues of the members of a node tell of members declared more than once -/
theorem mem_memberListIssues {path : String} {position : Nat} {x : Issue} : ∀ {ms : List Member},
    x ∈ memberListIssues path position ms → ∃ p n k, x = declaredTwice p position n k
  | ms, h => by
    rw [memberListIssues, List.mem_append] at h
    rcases h with h | h
    · exact ⟨path, mem_repeated h⟩
    · exact mem_nestedIssues h

theorem mem_nestedIssues {path : String} {position : Nat} {x : Issue} : ∀ {ms : List Member},
    x ∈ nestedIssues path position ms → ∃ p n k, x = declaredTwice p position n k
  | [], h => by simp [nestedIssues] at h
  | m :: ms, h => by
    rw [nestedIssues, List.mem_append] at h
    rcases h with h | h
    · exact mem_memberIssues h
    · exact mem_nestedIssues h

theorem mem_memberIssues {path : String} {position : Nat} {x : Issue} : ∀ {m : Member},
    x ∈ memberIssues path position m → ∃ p n k, x = declaredTwice p position n k
  | .variableNode .., h => by simp [memberIssues] at h
  | .objectNode labels _ _ children, h => by
    rw [memberIssues, List.mem_append] at h
    rcases h with h | h
    · exact ⟨_, mem_repeated h⟩
    · exact mem_nestedIssues h

end

mutual

/-- the members of a node have no issue exactly if there and below no two members of a node have one name -/
theorem memberListIssues_eq_nil (path : String) (position : Nat) : ∀ ms : List Member,
    memberListIssues path position ms = [] ↔ ∀ ns, Nested ms ns → NamedApart ns
  | ms => by
    rw [memberListIssues, List.append_eq_nil_iff, repeated_eq_nil, nestedIssues_eq_nil path position ms]
    constructor
    · rintro ⟨hhere, hbelow⟩ ns hns
      rcases nested_iff.1 hns with rfl | ⟨m, hm, h⟩
      · exact hhere
      · exact hbelow m hm ns h
    · intro h
      exact ⟨h ms .here, fun m hm ns hns => h ns (nested_iff.2 (Or.inr ⟨m, hm, hns⟩))⟩

theorem nestedIssues_eq_nil (path : String) (position : Nat) : ∀ ms : List Member,
    nestedIssues path position ms = [] ↔ ∀ m ∈ ms, ∀ ns, Nested m.children ns → NamedApart ns
  | [] => by simp [nestedIssues]
  | m :: ms => by
    rw [nestedIssues, List.append_eq_nil_iff, List.forall_mem_cons, memberIssues_eq_nil path position m,
      nestedIssues_eq_nil path position ms]

theorem memberIssues_eq_nil (path : String) (position : Nat) : ∀ m : Member,
    memberIssues path position m = [] ↔ ∀ ns, Nested m.children ns → NamedApart ns
  | .variableNode .. => by
    refine ⟨fun _ ns hns => ?_, fun _ => by rw [memberIssues]⟩
    rcases nested_iff.1 hns with rfl | ⟨m, hm, -⟩
    · exact List.nodup_nil
    · cases hm
  | .objectNode labels _ _ children => by
    rw [memberIssues]
    exact memberListIssues_eq_nil (path ++ "." ++ labels.symbolic.name) position children

end

/-! ## Codes and severities -/

/-- where the issues of the rule on names come from -/
theorem mem_check_uniqueNames {x : Issue} (h : x ∈ Rule.check doc .uniqueNames) :
    (∃ n k, x = definedTwice n k) ∨ ∃ p i n k, x = declaredTwice p i n k := by
  rw [Rule.check, List.mem_append, List.mem_flatMap] at h
  rcases h with h | ⟨⟨d, i⟩, -, h⟩
  · exact Or.inl (mem_repeated h)
  · obtain ⟨p, n, k, hx⟩ := mem_memberListIssues h
    exact Or.inr ⟨p, i, n, k, hx⟩

/-- an issue of a rule has the code of the rule, and the grade that the rule gives -/
theorem of_mem_check {r : Rule} {x : Issue} (h : x ∈ r.check doc) :
    x.code = r.code ∧ x.severity = if r = .descriptions then .warning else .error := by
  cases r with
  | uniqueNames => rcases mem_check_uniqueNames h with ⟨n, k, rfl⟩ | ⟨p, i, n, k, rfl⟩ <;> exact ⟨rfl, rfl⟩
  | backwardReferences =>
    obtain ⟨⟨d, i⟩, -, h⟩ := List.mem_flatMap.1 h
    obtain ⟨t, -, h⟩ := List.mem_filterMap.1 h
    obtain ⟨j, rfl⟩ : ∃ j, forwardIssue t i j = x := by grind
    exact ⟨rfl, rfl⟩
  | definedReferences =>
    obtain ⟨⟨d, i⟩, -, h⟩ := List.mem_flatMap.1 h
    obtain ⟨t, -, h⟩ := List.mem_filterMap.1 h
    obtain rfl : undefinedIssue t i = x := by grind
    exact ⟨rfl, rfl⟩
  | descriptions =>
    obtain ⟨⟨d, i⟩, -, h⟩ := List.mem_filterMap.1 h
    obtain rfl : undescribedIssue d i = x := by grind
    exact ⟨rfl, rfl⟩

theorem code_injective {r r' : Rule} (h : r.code = r'.code) : r = r' := by
  cases r <;> cases r' <;> first | rfl | (simp [Rule.code] at h)

/-- the issues that have the code of a rule are those of the rule -/
theorem ofCode_verdict (r : Rule) : (verdict doc).ofCode r.code = r.check doc := by
  have hown : ∀ r' : Rule, (r'.check doc).filter (·.code == r.code) = if r' = r then r.check doc else [] := by
    intro r'
    split
    · rename_i hr
      subst hr
      exact List.filter_eq_self.2 fun x hx => by rw [(of_mem_check hx).1, beq_self_eq_true]
    · rename_i hr
      refine List.filter_eq_nil_iff.2 fun x hx hcode => hr (code_injective ?_)
      rw [← (of_mem_check hx).1, beq_iff_eq.1 hcode]
  rw [verdict, audit, Verdict.ofCode, List.filter_flatMap]
  simp only [hown, Rule.all]
  cases r <;> simp

/-- a design is valid exactly if the rules other than that on descriptions have no issue -/
theorem isValid_iff : (verdict doc).isValid = true ↔ ∀ r : Rule, r ≠ .descriptions → r.check doc = [] := by
  simp only [Verdict.isValid, Verdict.errors, List.isEmpty_iff, List.filter_eq_nil_iff, beq_iff_eq]
  constructor
  · intro h r hr
    refine List.eq_nil_iff_forall_not_mem.2 fun x hx => h x ?_ ?_
    · exact List.mem_flatMap.2 ⟨r, by cases r <;> decide, hx⟩
    · rw [(of_mem_check hx).2, if_neg hr]
  · intro h x hx herror
    obtain ⟨r, -, hx⟩ := List.mem_flatMap.1 hx
    have hgrade := (of_mem_check hx).2
    split at hgrade
    · rw [herror] at hgrade
      cases hgrade
    · rename_i hr
      rw [h r hr] at hx
      cases hx

/-! ## References -/

section Lists

variable {α β γ : Type} {R : β → γ → Prop}

theorem forall₂_flatMap {f : α → List β} {g : α → List γ} {as : List α} (h : ∀ a ∈ as, List.Forall₂ R (f a) (g a)) :
    List.Forall₂ R (as.flatMap f) (as.flatMap g) := by
  induction as with
  | nil => exact .nil
  | cons a as ih =>
    obtain ⟨ha, has⟩ := List.forall_mem_cons.1 h
    exact List.rel_append ha (ih has)

theorem forall₂_filterMap {R : β → α → Prop} {f : α → Option β} {p : α → Bool} {as : List α}
    (hkept : ∀ a ∈ as, p a = true → ∃ b, f a = some b ∧ R b a) (hleft : ∀ a ∈ as, p a = false → f a = none) :
    List.Forall₂ R (as.filterMap f) (as.filter p) := by
  induction as with
  | nil => exact .nil
  | cons a as ih =>
    rw [List.forall_mem_cons] at hkept hleft
    have hrest := ih hkept.2 hleft.2
    cases hp : p a with
    | true =>
      obtain ⟨b, hb, hr⟩ := hkept.1 hp
      rw [List.filterMap_cons_some hb, List.filter_cons_of_pos hp]
      exact .cons hr hrest
    | false =>
      rw [List.filterMap_cons_none (hleft.1 hp), List.filter_cons_of_neg (by rw [hp]; exact Bool.false_ne_true)]
      exact hrest

end Lists

/-- among definitions of different names, the first definition of a name stands where the index says -/
theorem firstPosition?_eq (hi : doc.Indexed) (n : SymbolicName) : firstPosition? doc n = doc.indexOf? n := by
  refine Option.ext fun i => ?_
  rw [hi n i, firstPosition?, List.findIdx?_eq_some_iff_getElem]
  constructor
  · rintro ⟨hlt, hname, -⟩
    rw [← Array.getElem?_toList, List.getElem?_eq_getElem hlt, Option.map_some, beq_iff_eq.1 hname]
  · intro h
    obtain ⟨d, hd, hname⟩ := Option.map_eq_some_iff.1 h
    obtain ⟨hlt, rfl⟩ := List.getElem?_eq_some_iff.1 ((Array.getElem?_toList ..).trans hd)
    refine ⟨hlt, beq_iff_eq.2 hname, fun j hj hfirst => ?_⟩
    -- two positions of one name are the position that the index gives it
    have hjd : doc.definitions[j]? = some doc.definitions.toList[j] := by
      rw [← Array.getElem?_toList, List.getElem?_eq_getElem]
    have hj' := (hi n j).2 (by rw [hjd, Option.map_some, beq_iff_eq.1 hfirst])
    cases ((hi n i).2 h).symm.trans hj'
    exact lt_irrefl _ hj

/-- the issue tells that the reference goes to a definition after its source -/
def TellsLate (doc : ModelDocument) (x : Issue) (r : TypeReference) : Prop :=
  ∃ i j, doc.indexOf? r.source = some i ∧ doc.indexOf? r.target = some j ∧ i < j ∧ x = forwardIssue r i j

/-- the issue tells that the reference goes to no definition -/
def TellsMissing (doc : ModelDocument) (x : Issue) (r : TypeReference) : Prop :=
  ∃ i, doc.indexOf? r.source = some i ∧ doc.indexOf? r.target = none ∧ x = undefinedIssue r i

/-- the source of a reference stands where the definition does that has the reference -/
theorem indexOf?_source (hi : doc.Indexed) {d : Definition} {i : Nat} (hd : (d, i) ∈ doc.numbered) {r : TypeReference}
    (hr : r ∈ d.typeReferences) : doc.indexOf? r.source = some i := by
  obtain ⟨t, -, rfl⟩ := List.mem_map.1 hr
  have hdi := List.mk_mem_zipIdx_iff_getElem?.1 hd
  rw [Array.getElem?_toList] at hdi
  exact (hi d.name i).2 (by rw [hdi, Option.map_some])

theorem filter_violations (p : TypeReference → Bool) : doc.violations.filter p =
    doc.numbered.flatMap fun (d, i) => d.typeReferences.filter fun r => p r && !doc.isSettled i r := by
  simp only [ModelDocument.violations, List.filter_flatMap, List.filter_filter]

/-- the issues on late definitions are those of the references that break the order and have a definition -/
theorem forall₂_lateReferences (hi : doc.Indexed) : List.Forall₂ (TellsLate doc) (Rule.check doc .backwardReferences)
    (doc.violations.filter (doc.contains ·.target)) := by
  rw [filter_violations]
  refine forall₂_flatMap fun ⟨d, i⟩ hd => forall₂_filterMap (fun r hr hlate => ?_) (fun r _ hsettled => ?_)
  · have hsource := indexOf?_source hi hd hr
    simp only [firstPosition?_eq hi]
    rw [Bool.and_eq_true, ModelDocument.contains_iff, Bool.not_eq_true'] at hlate
    obtain ⟨⟨j, hj⟩, hlate⟩ := hlate
    simp only [ModelDocument.isSettled, hj, Bool.or_eq_false_iff, decide_eq_false_iff_not, not_le] at hlate
    refine ⟨forwardIssue r i j, ?_, i, j, hsource, hj, hlate.2, rfl⟩
    rw [if_neg (by rw [hlate.1]; exact Bool.false_ne_true), hj]
    exact if_pos hlate.2
  · simp only [firstPosition?_eq hi]
    rw [Bool.and_eq_false_iff, Bool.not_eq_false'] at hsettled
    split
    · rfl
    · rename_i hbuilt
      rcases hsettled with hnone | hsettled
      · rw [ModelDocument.indexOf?_eq_none hnone]
      · cases hj : doc.indexOf? r.target with
        | none => rfl
        | some j =>
          simp only [ModelDocument.isSettled, hj, Bool.or_eq_true, decide_eq_true_eq] at hsettled
          exact if_neg (not_lt.2 (hsettled.resolve_left hbuilt))

/-- the issues on missing definitions are those of the references that break the order and have no definition -/
theorem forall₂_missingReferences (hi : doc.Indexed) :
    List.Forall₂ (TellsMissing doc) (Rule.check doc .definedReferences)
      (doc.violations.filter (!doc.contains ·.target)) := by
  rw [filter_violations]
  refine forall₂_flatMap fun ⟨d, i⟩ hd => forall₂_filterMap (fun r hr hmissing => ?_) (fun r _ hsettled => ?_)
  · rw [Bool.and_eq_true, Bool.not_eq_true', Bool.not_eq_true'] at hmissing
    have hnone := ModelDocument.indexOf?_eq_none hmissing.1
    refine ⟨undefinedIssue r i, ?_, i, indexOf?_source hi hd hr, hnone, rfl⟩
    have hbuilt : r.target.isBuiltIn = false := by simpa [ModelDocument.isSettled, hnone] using hmissing.2
    simp only [firstPosition?_eq hi, hnone, hbuilt, Option.isSome_none, Bool.or_false, Bool.false_eq_true, if_false]
  · simp only [firstPosition?_eq hi]
    refine if_pos ?_
    rw [Bool.or_eq_true]
    rw [Bool.and_eq_false_iff, Bool.not_eq_false', Bool.not_eq_false', ModelDocument.contains_iff] at hsettled
    rcases hsettled with ⟨j, hj⟩ | hsettled
    · exact Or.inr (by rw [hj, Option.isSome_some])
    · simp only [ModelDocument.isSettled, Bool.or_eq_true] at hsettled
      refine hsettled.imp id fun h => ?_
      split at h
      · rename_i j hj
        rw [hj, Option.isSome_some]
      · cases h

/-- the rules on references report nothing exactly if no reference breaks the order -/
theorem violations_eq_nil_iff (hi : doc.Indexed) : doc.violations = [] ↔
    Rule.check doc .backwardReferences = [] ∧ Rule.check doc .definedReferences = [] := by
  have hlate := (forall₂_lateReferences hi).length_eq
  have hmissing := (forall₂_missingReferences hi).length_eq
  have hsplit := List.length_eq_length_filter_add (l := doc.violations) (doc.contains ·.target)
  simp only [← List.length_eq_zero_iff]
  omega

/-! ## The verdict -/

/-- the rule on names reports nothing exactly if no node of the design has two members of one name -/
theorem check_uniqueNames_eq_nil (hi : doc.Indexed) : Rule.check doc .uniqueNames = [] ↔
    ∀ d ∈ doc.definitions, ∀ ms, Nested d.children ms → NamedApart ms := by
  rw [Rule.check, List.append_eq_nil_iff, repeated_eq_nil, List.flatMap_eq_nil_iff]
  constructor
  · rintro ⟨-, h⟩ d hd
    obtain ⟨i, hdi⟩ := List.getElem?_of_mem (Array.mem_toList_iff.2 hd)
    exact (memberListIssues_eq_nil d.name.name i d.children).1 (h (d, i) (List.mk_mem_zipIdx_iff_getElem?.2 hdi))
  · refine fun h => ⟨hi.nodup, fun ⟨d, i⟩ hdi => (memberListIssues_eq_nil d.name.name i d.children).2 (h d ?_)⟩
    exact Array.mem_toList_iff.1 (List.mem_of_getElem? (List.mk_mem_zipIdx_iff_getElem?.1 hdi))

/-- a design with an index is valid exactly if no reference breaks the order and no node has two members of one name -/
theorem isValid_iff_of_indexed (hi : doc.Indexed) : (verdict doc).isValid = true ↔
    doc.violations = [] ∧ ∀ d ∈ doc.definitions, ∀ ms, Nested d.children ms → NamedApart ms := by
  rw [isValid_iff, violations_eq_nil_iff hi, ← check_uniqueNames_eq_nil hi]
  constructor
  · exact fun h => ⟨⟨h _ (by decide), h _ (by decide)⟩, h _ (by decide)⟩
  · rintro ⟨⟨hlate, hmissing⟩, hnames⟩ r hr
    cases r with
    | uniqueNames => exact hnames
    | backwardReferences => exact hlate
    | definedReferences => exact hmissing
    | descriptions => exact absurd rfl hr

/-- no name of a design with an index is reported as defined more than once -/
theorem definedTwice_not_mem (hi : doc.Indexed) (n : SymbolicName) (k : Nat) : definedTwice n k ∉ verdict doc := by
  intro h
  have hcheck : definedTwice n k ∈ Rule.check doc .uniqueNames := by
    rw [← ofCode_verdict]
    exact List.mem_filter.2 ⟨h, beq_self_eq_true _⟩
  rw [Rule.check, repeated_eq_nil.2 hi.nodup, List.nil_append, List.mem_flatMap] at hcheck
  obtain ⟨⟨d, i⟩, -, hmember⟩ := hcheck
  obtain ⟨p, m, l, heq⟩ := mem_memberListIssues hmember
  -- members are reported with the position of their definition, names without
  have hlocation := congrArg (fun x => x.location.bind (·.position)) heq
  cases hlocation

/-- **The verdict and the design agree.** Whatever definitions are appended, the errors `E001` and `E002` are, one to one
and in order, those of the references that break the order of the design, no definition is reported as a second one of
its name, and the design is valid exactly if no reference breaks the order and no node, at any depth, has two members of one
name. -/
theorem verdict_agrees (target : String) (namespaces : List Namespace) (ds : List Definition) :
    let doc := (ModelDocument.new target namespaces).appendAll ds
    List.Forall₂ (TellsLate doc) ((verdict doc).ofCode "E001") (doc.violations.filter (doc.contains ·.target)) ∧
      List.Forall₂ (TellsMissing doc) ((verdict doc).ofCode "E002") (doc.violations.filter (!doc.contains ·.target)) ∧
      (∀ n k, definedTwice n k ∉ verdict doc) ∧
      ((verdict doc).isValid = true ↔
        doc.violations = [] ∧ ∀ d ∈ doc.definitions, ∀ ms, Nested d.children ms → NamedApart ms) := by
  intro doc
  have hi : doc.Indexed := ModelDocument.indexed_appendAll target namespaces ds
  refine ⟨?_, ?_, definedTwice_not_mem hi, isValid_iff_of_indexed hi⟩
  · have h := forall₂_lateReferences hi
    rw [← ofCode_verdict] at h
    exact h
  · have h := forall₂_missingReferences hi
    rw [← ofCode_verdict] at h
    exact h

end YangDesign.Audit
