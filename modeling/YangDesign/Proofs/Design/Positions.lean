/-
Where the definitions of a design stand, and how they derive from each other.

`Indexed` says that the index of a design gives every definition its position. Designs grow at the end (`Grows`), and a
definition keeps its position. `Derives` follows base types from one definition to another, `EndsAt` follows them to the
first name that the design does not define.
-/
import Mathlib.Logic.Relation
import Mathlib.Tactic
import YangDesign.Design.TypeReference

namespace YangDesign.Design

namespace ModelDocument

/-- the index gives each name the position of its definition, and no other name has one -/
def Indexed (doc : ModelDocument) : Prop :=
  ∀ n i, doc.indexOf? n = some i ↔ (doc.definitions[i]?).map Definition.name = some n

/-- `doc'` has the namespaces of `doc`, and every definition of `doc` stands in `doc'` at its position -/
structure Grows (doc doc' : ModelDocument) : Prop where
  target : doc'.target = doc.target
  namespaces : doc'.namespaces = doc.namespaces
  definitions : ∀ (i : Nat) (d : Definition), doc.definitions[i]? = some d → doc'.definitions[i]? = some d

/-- the definitions of a design that has grown begin with those it had -/
theorem Grows.toList_isPrefix {doc doc' : ModelDocument} (h : doc.Grows doc') :
    doc.definitions.toList <+: doc'.definitions.toList := by
  rw [List.prefix_iff_getElem?]
  intro i hi
  rw [Array.getElem?_toList, Array.getElem_toList]
  exact h.definitions i _ (Array.getElem?_eq_getElem hi)

theorem indexed_new (target : String) (namespaces : List Namespace) : (new target namespaces).Indexed := by
  intro n i
  simp [new, indexOf?, Assoc.find?, Assoc.empty, Assoc.findIn]

theorem append_eq_some_iff {doc doc' : ModelDocument} {d : Definition} :
    doc.append d = some doc' ↔ doc.contains d.name = false ∧
      { doc with
        definitions := doc.definitions.push d
        index := doc.index.insert d.name doc.definitions.size } = doc' := by
  unfold append contains
  cases h : doc.index.contains d.name <;> simp

theorem indexOf?_append {doc doc' : ModelDocument} {d : Definition} (h : doc.append d = some doc') (n : SymbolicName) :
    doc'.indexOf? n = if d.name = n then some doc.definitions.size else doc.indexOf? n := by
  obtain ⟨-, rfl⟩ := append_eq_some_iff.1 h
  exact Assoc.find?_insert _ _ _ _

theorem definitions_append {doc doc' : ModelDocument} {d : Definition} (h : doc.append d = some doc') :
    doc'.definitions = doc.definitions.push d := by
  obtain ⟨-, rfl⟩ := append_eq_some_iff.1 h
  rfl

theorem contains_iff {doc : ModelDocument} {n : SymbolicName} :
    doc.contains n = true ↔ ∃ i, doc.indexOf? n = some i := by
  rw [contains, Assoc.contains, Option.isSome_iff_exists]
  rfl

theorem indexOf?_eq_none {doc : ModelDocument} {n : SymbolicName} (h : doc.contains n = false) :
    doc.indexOf? n = none := by
  rw [contains, Assoc.contains, Option.isSome_eq_false_iff, Option.isNone_iff_eq_none] at h
  exact h

/-- a design with an index stays so when a definition goes to its end -/
theorem Indexed.append {doc doc' : ModelDocument} {d : Definition} (hi : doc.Indexed) (h : doc.append d = some doc') :
    doc'.Indexed := by
  intro n i
  have hnew := indexOf?_eq_none (append_eq_some_iff.1 h).1
  rw [indexOf?_append h, definitions_append h, Array.getElem?_push]
  by_cases hn : d.name = n
  · subst hn
    rw [if_pos rfl]
    constructor
    · intro hs
      cases hs
      simp
    · intro hs
      split at hs
      · rename_i hsize
        rw [hsize]
      · have := (hi d.name i).2 hs
        rw [hnew] at this
        cases this
  · rw [if_neg hn, hi n i]
    split
    · rename_i hsize
      subst hsize
      simp [hn]
    · exact Iff.rfl

theorem grows_refl (doc : ModelDocument) : doc.Grows doc :=
  ⟨rfl, rfl, fun _ _ h => h⟩

theorem Grows.trans {a b c : ModelDocument} (h : a.Grows b) (k : b.Grows c) : a.Grows c :=
  ⟨k.target.trans h.target, k.namespaces.trans h.namespaces, fun i d hd => k.definitions i d (h.definitions i d hd)⟩

theorem grows_append {doc doc' : ModelDocument} {d : Definition} (h : doc.append d = some doc') : doc.Grows doc' := by
  have hsame : doc'.target = doc.target ∧ doc'.namespaces = doc.namespaces := by
    obtain ⟨-, rfl⟩ := append_eq_some_iff.1 h
    exact ⟨rfl, rfl⟩
  refine ⟨hsame.1, hsame.2, fun i e he => ?_⟩
  rw [definitions_append h, Array.getElem?_push]
  have hlt := (Array.getElem?_eq_some_iff.1 he).1
  rw [if_neg (by omega)]
  exact he

theorem Grows.indexOf? {doc doc' : ModelDocument} (h : doc.Grows doc') (hi : doc.Indexed) (hi' : doc'.Indexed)
    {n : SymbolicName} {i : Nat} (hn : doc.indexOf? n = some i) : doc'.indexOf? n = some i := by
  obtain ⟨d, hd, hdn⟩ := Option.map_eq_some_iff.1 ((hi n i).1 hn)
  exact (hi' n i).2 (by rw [h.definitions i d hd, Option.map_some, hdn])

theorem Grows.contains {doc doc' : ModelDocument} (h : doc.Grows doc') (hi : doc.Indexed) (hi' : doc'.Indexed)
    {n : SymbolicName} (hn : doc.contains n = true) : doc'.contains n = true := by
  obtain ⟨i, hi0⟩ := contains_iff.1 hn
  exact contains_iff.2 ⟨i, h.indexOf? hi hi' hi0⟩

theorem contains_append {doc doc' : ModelDocument} {d : Definition} (h : doc.append d = some doc') (n : SymbolicName) :
    doc'.contains n = (decide (d.name = n) || doc.contains n) := by
  rw [Bool.eq_iff_iff, contains_iff, indexOf?_append h]
  by_cases hn : d.name = n
  · simp [hn]
  · simp [hn, contains_iff]

/-- a definition of the design is found under its name -/
theorem Indexed.get?_eq_some_iff {doc : ModelDocument} (hi : doc.Indexed) {n : SymbolicName} {d : Definition} :
    doc.get? n = some d ↔ ∃ i : Nat, doc.definitions[i]? = some d ∧ d.name = n := by
  unfold get?
  rw [Option.bind_eq_some_iff]
  constructor
  · rintro ⟨i, hn, hd⟩
    have := (hi n i).1 hn
    rw [hd, Option.map_some, Option.some.injEq] at this
    exact ⟨i, hd, this⟩
  · rintro ⟨i, hd, rfl⟩
    exact ⟨i, (hi _ i).2 (by rw [hd, Option.map_some]), hd⟩

theorem Grows.get? {doc doc' : ModelDocument} (h : doc.Grows doc') (hi : doc.Indexed) (hi' : doc'.Indexed)
    {n : SymbolicName} {d : Definition} (hd : doc.get? n = some d) : doc'.get? n = some d := by
  obtain ⟨i, hdi, hn⟩ := hi.get?_eq_some_iff.1 hd
  exact hi'.get?_eq_some_iff.2 ⟨i, h.definitions i d hdi, hn⟩

theorem Indexed.contains_of_get? {doc : ModelDocument} {n : SymbolicName} {d : Definition} (hd : doc.get? n = some d) :
    doc.contains n = true := by
  unfold get? at hd
  obtain ⟨i, hn, -⟩ := Option.bind_eq_some_iff.1 hd
  exact contains_iff.2 ⟨i, hn⟩

/-- the definitions of a design with an index have different names -/
theorem Indexed.nodup {doc : ModelDocument} (hi : doc.Indexed) : (doc.definitions.toList.map Definition.name).Nodup := by
  refine List.nodup_iff_getElem?_ne_getElem?.2 fun i j hij hj heq => ?_
  have hlt : j < doc.definitions.toList.length := by simpa using hj
  have hjd : doc.definitions[j]? = some doc.definitions.toList[j] := by
    rw [← Array.getElem?_toList, List.getElem?_eq_getElem hlt]
  rw [List.getElem?_map, List.getElem?_map, Array.getElem?_toList, Array.getElem?_toList, hjd, Option.map_some] at heq
  have hposition := (hi doc.definitions.toList[j].name i).2 heq
  have hposition' := (hi doc.definitions.toList[j].name j).2 (by rw [hjd, Option.map_some])
  cases hposition.symm.trans hposition'
  exact lt_irrefl _ hij

theorem Indexed.get?_of_mem {doc : ModelDocument} (hi : doc.Indexed) {d : Definition} (hd : d ∈ doc.definitions) :
    doc.get? d.name = some d := by
  obtain ⟨i, h⟩ := Array.mem_iff_getElem?.1 hd
  exact hi.get?_eq_some_iff.2 ⟨i, h, rfl⟩

theorem Indexed.mem_of_get? {doc : ModelDocument} (hi : doc.Indexed) {n : SymbolicName} {d : Definition}
    (hd : doc.get? n = some d) :
    d ∈ doc.definitions ∧ d.name = n := by
  obtain ⟨i, h, hn⟩ := hi.get?_eq_some_iff.1 hd
  exact ⟨Array.mem_of_getElem? h, hn⟩

/-- the references of a design are in order exactly if each is built in or goes to a definition that does not stand later -/
theorem violations_eq_nil {doc : ModelDocument} : doc.violations = [] ↔
    ∀ (i : Nat) (d : Definition), doc.definitions[i]? = some d → ∀ t ∈ d.targets,
      t.1.isBuiltIn = true ∨ ∃ j ≤ i, doc.indexOf? t.1 = some j := by
  have hsettled : ∀ i (r : TypeReference), doc.isSettled i r = true ↔
      r.target.isBuiltIn = true ∨ ∃ j ≤ i, doc.indexOf? r.target = some j := by
    intro i r
    unfold isSettled
    cases doc.indexOf? r.target <;> simp
  simp only [violations, numbered, List.flatMap_eq_nil_iff, List.filter_eq_nil_iff, Definition.typeReferences,
    List.mem_map, Bool.not_eq_true', Bool.not_eq_false, forall_exists_index, and_imp, hsettled]
  constructor
  · intro h i d hd t ht
    have hmem : (d, i) ∈ doc.definitions.toList.zipIdx := by
      rw [List.mk_mem_zipIdx_iff_getElem?, Array.getElem?_toList]
      exact hd
    exact h (d, i) hmem _ t ht rfl
  · rintro h ⟨d, i⟩ hmem r t ht rfl
    rw [List.mk_mem_zipIdx_iff_getElem?, Array.getElem?_toList] at hmem
    exact h i d hmem t ht

/-- a definition of the name stands before a position -/
def DefinedBefore (doc : ModelDocument) (i : Nat) (n : SymbolicName) : Prop :=
  ∃ j < i, ∃ e, doc.definitions[j]? = some e ∧ e.name = n

theorem Indexed.definedBefore_iff {doc : ModelDocument} (hi : doc.Indexed) {i : Nat} {n : SymbolicName} :
    doc.DefinedBefore i n ↔ ∃ j < i, doc.indexOf? n = some j := by
  simp only [DefinedBefore, hi n, Option.map_eq_some_iff]

/-! ## Derivation -/

/-- `b` is the base type of the definition of `a` -/
def BaseOf (doc : ModelDocument) (a b : SymbolicName) : Prop :=
  ∃ d, doc.get? a = some d ∧ d.base? = some b

/-- following base types leads from `a` to `b` -/
def Derives (doc : ModelDocument) : SymbolicName → SymbolicName → Prop :=
  Relation.ReflTransGen doc.BaseOf

/-- following base types from `a` ends, after finitely many steps, at `b`, which the design does not define -/
inductive EndsAt (doc : ModelDocument) : SymbolicName → SymbolicName → Prop where
  | here {a : SymbolicName} : doc.get? a = none → EndsAt doc a a
  | step {a b c : SymbolicName} {d : Definition} : doc.get? a = some d → d.base? = some b → EndsAt doc b c → EndsAt doc a c

theorem role_of_mem_target? {n : Option SymbolicName} {role : Role} {t : Target} (h : t ∈ target? n role) : t.2 = role := by
  obtain ⟨m, -, rfl⟩ := Option.map_eq_some_iff.1 (Option.mem_toList.1 h)
  rfl

theorem role_of_mem_referenceTargets {rs : List Reference} {t : Target} (h : t ∈ referenceTargets rs) :
    t.2 = .referenceType := by
  obtain ⟨r, -, rfl⟩ := List.mem_map.1 h
  rfl

mutual

/-- members have no base -/
theorem role_ne_of_mem_targets : ∀ (m : Member) {t : Target}, t ∈ m.targets → t.2 ≠ .baseType
  | .variableNode _ _ _ _ _, t, h => by
    rw [Member.targets, List.mem_append] at h
    rcases h with h | h <;> simp [role_of_mem_target? h]
  | .objectNode _ _ _ children, t, h => by
    rw [Member.targets, List.mem_append, List.mem_append] at h
    rcases h with (h | h) | h
    · simp [role_of_mem_target? h]
    · simp [role_of_mem_referenceTargets h]
    · exact role_ne_of_mem_targetsOf children h

theorem role_ne_of_mem_targetsOf : ∀ (ms : List Member) {t : Target}, t ∈ Member.targetsOf ms → t.2 ≠ .baseType
  | [], t, h => by simp [Member.targetsOf] at h
  | m :: ms, t, h => by
    rw [Member.targetsOf, List.mem_append] at h
    rcases h with h | h
    · exact role_ne_of_mem_targets m h
    · exact role_ne_of_mem_targetsOf ms h

end

/-- the reference to its base is the one that a definition has in this role -/
theorem base?_eq_some_iff {d : Definition} {n : SymbolicName} : d.base? = some n ↔ (n, Role.baseType) ∈ d.targets := by
  have hown : ∀ b : Option SymbolicName, b = some n ↔ (n, Role.baseType) ∈ target? b .baseType := by
    intro b
    cases b <;> simp [target?, eq_comm]
  obtain ⟨labels, content⟩ := d
  cases content with
  | dataType b fields => exact hown b
  | referenceType b => exact hown b
  | objectType b isAbstract children =>
    refine (hown b).trans ⟨fun h => List.mem_append_left _ h, fun h => ?_⟩
    exact (List.mem_append.1 h).resolve_right fun h => role_ne_of_mem_targetsOf children h rfl
  | variableType b dataType rank =>
    refine (hown b).trans ⟨fun h => List.mem_append_left _ h, fun h => ?_⟩
    exact (List.mem_append.1 h).resolve_right fun h => by simpa using role_of_mem_target? h
  | object type references children =>
    simp only [Definition.base?, Definition.targets, List.mem_append, reduceCtorEq, false_iff, not_or]
    refine ⟨⟨fun h => ?_, fun h => ?_⟩, fun h => role_ne_of_mem_targetsOf children h rfl⟩
    · simpa using role_of_mem_target? h
    · simpa using role_of_mem_referenceTargets h

theorem Grows.derives {doc doc' : ModelDocument} (h : doc.Grows doc') (hi : doc.Indexed) (hi' : doc'.Indexed)
    {a b : SymbolicName} (hab : doc.Derives a b) : doc'.Derives a b :=
  Relation.ReflTransGen.mono (fun _ _ ⟨d, hd, hb⟩ => ⟨d, h.get? hi hi' hd, hb⟩) _ _ hab

/-- in a design in order that defines no built-in name, base types lead backwards -/
theorem Indexed.derives_backward {doc : ModelDocument} (hi : doc.Indexed) (hv : doc.violations = [])
    (huri : ∀ n, n.isBuiltIn = true → doc.get? n = none) {a b : SymbolicName} (h : doc.Derives a b) :
    a = b ∨ b.isBuiltIn = true ∨ ∃ i j, doc.indexOf? a = some i ∧ doc.indexOf? b = some j ∧ j ≤ i := by
  induction h with
  | refl => exact Or.inl rfl
  | @tail c b _ hcb ih =>
    obtain ⟨d, hd, hbase⟩ := hcb
    obtain ⟨k, hk, hname⟩ := hi.get?_eq_some_iff.1 hd
    have hc : doc.indexOf? c = some k := (hi c k).2 (by rw [hk, Option.map_some, hname])
    rcases violations_eq_nil.1 hv k d hk _ (base?_eq_some_iff.1 hbase) with hbuilt | ⟨j, hj, hb⟩
    · exact Or.inr (Or.inl hbuilt)
    · rcases ih with rfl | hbuilt | ⟨i, k', ha, hc', hki⟩
      · exact Or.inr (Or.inr ⟨k, j, hc, hb, hj⟩)
      · rw [huri c hbuilt] at hd
        cases hd
      · cases hc.symm.trans hc'
        exact Or.inr (Or.inr ⟨i, j, ha, hb, le_trans hj hki⟩)

/-- such a design has no two definitions that derive from each other -/
theorem Indexed.derives_antisymm {doc : ModelDocument} (hi : doc.Indexed) (hv : doc.violations = [])
    (huri : ∀ n, n.isBuiltIn = true → doc.get? n = none) {a b : SymbolicName} (hab : doc.Derives a b)
    (hba : doc.Derives b a) : a = b := by
  have hnone : ∀ {x y : SymbolicName}, x.isBuiltIn = true → doc.Derives x y → x = y := by
    intro x y hx hxy
    rcases Relation.ReflTransGen.cases_head hxy with rfl | ⟨c, ⟨d, hd, -⟩, -⟩
    · rfl
    · rw [huri x hx] at hd
      cases hd
  rcases hi.derives_backward hv huri hab with rfl | hb | ⟨i, j, ha, hb, hji⟩
  · rfl
  · exact (hnone hb hba).symm
  · rcases hi.derives_backward hv huri hba with rfl | ha' | ⟨j', i', hb', ha', hij⟩
    · rfl
    · exact hnone ha' hab
    · cases ha.symm.trans ha'
      cases hb.symm.trans hb'
      obtain rfl := le_antisymm hji hij
      have := ((hi a j).1 ha).symm.trans ((hi b j).1 hb)
      exact Option.some.inj this

end ModelDocument

end YangDesign.Design
