/-
The references of a design.

A translation that answers has recorded every type that it registered (`Sound.made`), so every reference of its design is
built in or has a definition. All references go backwards but for the bases of data types and of the types of identities
(`translate_references`): these are the definitions whose base may be registered and still to be emitted.
-/
import YangDesign.Audit.Rule
import YangDesign.Proofs.Translate.Runs

namespace YangDesign.Translate

open Design Instance Schema Progress

variable {tree : Tree} {p : Progress}

/-! ## Finished translations -/

/-- a registered type is recorded with its definition -/
theorem Sound.made (h : Sound tree [] [] p) {r : TypeRole} {o : Owner} {n : SymbolicName} (ha : p.Asked r o n) :
    ∃ d, p.document.get? n = some d ∧ Made tree p r o d := by
  obtain ⟨e, he⟩ := Option.isSome_iff_exists.1 ha.registered
  obtain ⟨r', o', -, hn, hm⟩ := h.requested _ _ _ he
  cases e with
  | none => cases hm
  | some d =>
    cases hn.job_unique ha.named
    exact ⟨d, hm⟩

theorem Sound.get?_name (h : Sound tree [] [] p) {i : Nat} {d : Definition} (hd : p.document.definitions[i]? = some d) :
    p.document.get? d.name = some d :=
  h.indexed.get?_eq_some_iff.2 ⟨i, hd, rfl⟩

/-- the design defines what its references go to -/
theorem Sound.target_defined (h : Sound tree [] [] p) {i : Nat} {d : Definition} (hd : p.document.definitions[i]? = some d)
    {t : Target} (ht : t ∈ d.targets) : t.1.isBuiltIn = true ∨ p.document.contains t.1 = true := by
  rcases h.placed i d hd t ht with hbuilt | ⟨j, -, hj⟩ | ⟨-, u, v, hl⟩
  · exact Or.inl hbuilt.1
  · exact Or.inr (ModelDocument.contains_iff.2 ⟨j, hj⟩)
  · exact Or.inr (h.contains_of_asked hl.base (by simp))

/-- the name of the type of an identity at the top of a module -/
def NamesIdentity (tree : Tree) (p : Progress) (n : SymbolicName) : Prop :=
  ∃ i ∈ tree.topIdentities, p.Asked .identity (ownerOf i.head) n

/-- a definition whose base may stand later is a data type or the type of an identity -/
theorem Sound.kind_of_loose (h : Sound tree [] [] p) {i : Nat} {d : Definition} (hd : p.document.definitions[i]? = some d)
    {n : SymbolicName} {u v : Source} (hl : Loose tree [] p d n u v) :
    d.kind = .dataType ∨ d.kind = .objectType ∧ NamesIdentity tree p d.name := by
  obtain ⟨e, he, hm⟩ := h.made hl.asked
  obtain rfl : d = e := Option.some.inj ((h.get?_name hd).symm.trans he)
  cases u with
  | type t =>
    left
    generalize ho : (Source.type t).owner = o at hm
    cases hm with
    | dataType ht hb hc => rw [Definition.kind, hc]; rfl
  | identity j =>
    right
    have hnames : NamesIdentity tree p d.name := ⟨j, hl.makes.identity_mem, hl.asked⟩
    generalize ho : (Source.identity j).owner = o at hm
    cases hm with
    | identity hj hb hc => exact ⟨by rw [Definition.kind, hc]; rfl, hnames⟩

/-! ## References -/

theorem firstPosition?_isSome {doc : ModelDocument} {n : SymbolicName} :
    (Audit.firstPosition? doc n).isSome = true ↔ ∃ e ∈ doc.definitions, e.name = n := by
  rw [Audit.firstPosition?, List.findIdx?_isSome, List.any_eq_true]
  simp only [Array.mem_toList_iff, beq_iff_eq]

/-- the rule on undefined references reports nothing exactly if each reference is built in or defined -/
theorem check_definedReferences_eq_nil {doc : ModelDocument} : Audit.Rule.check doc .definedReferences = [] ↔
    ∀ d ∈ doc.definitions, ∀ t ∈ d.targets, t.1.isBuiltIn = true ∨ ∃ e ∈ doc.definitions, e.name = t.1 := by
  simp only [Audit.Rule.check, ModelDocument.numbered, List.flatMap_eq_nil_iff, List.filterMap_eq_nil_iff,
    Definition.typeReferences, List.mem_map, ite_eq_left_iff, reduceCtorEq, imp_false, Bool.not_eq_true,
    Bool.or_eq_false_iff, not_and, Bool.not_eq_false, ← firstPosition?_isSome]
  constructor
  · intro h d hd t ht
    obtain ⟨i, hi⟩ := List.getElem?_of_mem (Array.mem_toList_iff.2 hd)
    by_cases hb : t.1.isBuiltIn = true
    · exact Or.inl hb
    · have hmem : (d, i) ∈ doc.definitions.toList.zipIdx := List.mk_mem_zipIdx_iff_getElem?.2 hi
      have := h (d, i) hmem ⟨d.name, t.1, t.2⟩ ⟨t, ht, rfl⟩
      exact Or.inr (by simpa [hb] using this)
  · rintro h ⟨d, i⟩ hmem r ⟨t, ht, rfl⟩
    have hd : d ∈ doc.definitions := Array.mem_toList_iff.1 (List.mem_of_getElem? (List.mk_mem_zipIdx_iff_getElem?.1 hmem))
    rcases h d hd t ht with hb | hs
    · simp [hb]
    · simp [hs]

/-- **References of a design.** In the design for a resolved schema, whatever the settings and the data, every reference is
built in or goes to a definition that stands before; the only exceptions are the bases of data types and of the types of
identities. These also are built in or defined, so the rule on undefined references reports nothing. -/
theorem translate_references {d : Document} (hresolve : d.resolve = .ok tree) {s : Settings} {data : List DataNode}
    {doc : ModelDocument} (h : translate s tree data = .ok doc) :
    ∃ p, run s tree data = (.ok (), p) ∧ p.document = doc ∧
      (∀ (i : Nat) (e : Definition), doc.definitions[i]? = some e → ∀ t ∈ e.targets,
        t.2 ≠ .baseType ∨ e.kind ≠ .dataType ∧ (e.kind = .objectType → ¬ NamesIdentity tree p e.name) →
          t.1.isBuiltIn = true ∨ doc.DefinedBefore i t.1) ∧
      (∀ e ∈ doc.definitions, ∀ t ∈ e.targets, t.1.isBuiltIn = true ∨ ∃ e' ∈ doc.definitions, e'.name = t.1) ∧
      Audit.Rule.check doc .definedReferences = [] := by
  obtain ⟨p, hrun, rfl⟩ := translate_eq_ok_iff.1 h
  have hsound := run_sound (Document.resolve_resolved hresolve) hrun
  have hdefined : ∀ e ∈ p.document.definitions, ∀ t ∈ e.targets,
      t.1.isBuiltIn = true ∨ ∃ e' ∈ p.document.definitions, e'.name = t.1 := by
    intro e he t ht
    obtain ⟨i, hi⟩ := Array.mem_iff_getElem?.1 he
    refine (hsound.target_defined hi ht).imp id fun hc => ?_
    obtain ⟨j, hj⟩ := ModelDocument.contains_iff.1 hc
    obtain ⟨e', he', hname⟩ := Option.map_eq_some_iff.1 ((hsound.indexed _ _).1 hj)
    exact ⟨e', Array.mem_of_getElem? he', hname⟩
  refine ⟨p, hrun, rfl, fun i e he t ht hstrict => ?_, hdefined, check_definedReferences_eq_nil.2 hdefined⟩
  rcases hsound.placed i e he t ht with hbuilt | hbefore | ⟨hrole, u, v, hl⟩
  · exact Or.inl hbuilt.1
  · exact Or.inr (hsound.indexed.definedBefore_iff.2 hbefore)
  · exfalso
    rcases hstrict with hne | ⟨hdata, hidentity⟩
    · exact hne hrole
    · rcases hsound.kind_of_loose he hl with hk | ⟨hk, hnames⟩
      · exact hdata hk
      · exact hidentity hk hnames

/-- two identities that are each other's base -/
def crossedIdentities : Document :=
  ⟨[⟨"m", "urn:m", "m", none, [.named "a" none (.identity ["b"]) [], .named "b" none (.identity ["a"]) []]⟩]⟩

/-- the tree of the crossed identities -/
def crossedTree : Tree :=
  let identity := fun (name base : String) => Node.mk ⟨⟨"urn:m", name⟩, [name], none⟩ (.identity [⟨"urn:m", base⟩]) []
  ⟨[⟨"m", "urn:m", "m", [identity "a" "b", identity "b" "a"], none⟩]⟩

theorem resolve_crossedIdentities : crossedIdentities.resolve = .ok crossedTree := rfl

/-- the bases of crossed identities are defined, though one of them too late -/
theorem crossedIdentities_references : ∃ tree doc, crossedIdentities.resolve = .ok tree ∧
    translate (.default 0) tree [] = .ok doc ∧ doc.violations.length = 1 ∧
    Audit.Rule.check doc .definedReferences = [] := by
  obtain ⟨doc, hdoc, hlate⟩ : ∃ doc, translate (.default 0) crossedTree [] = .ok doc ∧
      (doc.violations.length == 1) = true := ok_of_any (by decide +kernel)
  obtain ⟨p, -, -, -, -, hchecked⟩ := translate_references resolve_crossedIdentities hdoc
  exact ⟨crossedTree, doc, resolve_crossedIdentities, hdoc, beq_iff_eq.1 hlate, hchecked⟩

end YangDesign.Translate
