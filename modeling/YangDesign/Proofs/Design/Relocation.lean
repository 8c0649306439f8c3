/-
Designs in other namespaces.

`relocate ρ` carries every name of a definition, at every depth, from its namespace `u` to the namespace `ρ u`; the names stay
as they are, and so does all else. What matters of the map of namespaces is that it tells them apart and leaves the vocabulary
where it is (`Relocation`). `Definition.relocate_congr`: only the namespaces of the names in a definition matter.
-/
import Mathlib.Logic.Equiv.Basic
import YangDesign.Design.TypeReference
import YangDesign.Proofs.Design.Regular

namespace YangDesign.Design

/-- a map of namespaces that tells them apart and leaves the vocabulary where it is -/
structure Relocation (ρ : String → String) : Prop where
  injective : Function.Injective ρ
  base : ρ baseUri = baseUri

/-- two namespaces may trade places, if neither is the vocabulary -/
theorem relocation_swap {t t' : String} (h : t ≠ baseUri) (h' : t' ≠ baseUri) : Relocation (Equiv.swap t t') :=
  ⟨(Equiv.swap t t').injective, Equiv.swap_apply_of_ne_of_ne h.symm h'.symm⟩

/-! ## Names, members and definitions -/

/-- a name in another namespace -/
def SymbolicName.relocate (ρ : String → String) (n : SymbolicName) : SymbolicName :=
  ⟨ρ n.namespaceUri, n.name⟩

/-- the names and the description of a node in another namespace -/
def Labels.relocate (ρ : String → String) (l : Labels) : Labels :=
  { l with symbolic := l.symbolic.relocate ρ }

/-- a reference between nodes in other namespaces -/
def Reference.relocate (ρ : String → String) (r : Reference) : Reference :=
  ⟨r.type.relocate ρ, r.target.relocate ρ, r.inverse⟩

/-- a default value of a type in another namespace -/
def DefaultValue.relocate (ρ : String → String) (d : DefaultValue) : DefaultValue :=
  { d with dataType := d.dataType.relocate ρ }

mutual

/-- a member and all below it in other namespaces -/
def Member.relocate (ρ : String → String) : Member → Member
  | .variableNode labels type rank access default =>
    .variableNode (labels.relocate ρ) (type.map (SymbolicName.relocate ρ)) rank access (default.map (DefaultValue.relocate ρ))
  | .objectNode labels type references children =>
    .objectNode (labels.relocate ρ) (type.map (SymbolicName.relocate ρ)) (references.map (Reference.relocate ρ))
      (Member.relocateAll ρ children)

/-- some members in other namespaces -/
def Member.relocateAll (ρ : String → String) : List Member → List Member
  | [] => []
  | m :: ms => m.relocate ρ :: Member.relocateAll ρ ms

end

/-- what a definition declares in other namespaces -/
def Content.relocate (ρ : String → String) : Content → Content
  | .dataType base fields => .dataType (base.map (SymbolicName.relocate ρ)) fields
  | .objectType base isAbstract children =>
    .objectType (base.map (SymbolicName.relocate ρ)) isAbstract (Member.relocateAll ρ children)
  | .variableType base type rank =>
    .variableType (base.map (SymbolicName.relocate ρ)) (type.map (SymbolicName.relocate ρ)) rank
  | .referenceType base => .referenceType (base.map (SymbolicName.relocate ρ))
  | .object type references children =>
    .object (type.map (SymbolicName.relocate ρ)) (references.map (Reference.relocate ρ)) (Member.relocateAll ρ children)

/-- a definition in other namespaces -/
def Definition.relocate (ρ : String → String) (d : Definition) : Definition :=
  ⟨d.labels.relocate ρ, d.content.relocate ρ⟩

/-- a target of a type reference in another namespace -/
def Target.relocate (ρ : String → String) (t : Target) : Target :=
  (t.1.relocate ρ, t.2)

/-- a type reference between other namespaces -/
def TypeReference.relocate (ρ : String → String) (r : TypeReference) : TypeReference :=
  ⟨r.source.relocate ρ, r.target.relocate ρ, r.role⟩

section Names

variable {ρ : String → String}

theorem SymbolicName.relocate_injective (hρ : Relocation ρ) : Function.Injective (relocate ρ) := by
  rintro ⟨u, n⟩ ⟨u', n'⟩ h
  obtain ⟨hu, hn⟩ := SymbolicName.mk.inj h
  exact SymbolicName.mk.injEq .. ▸ ⟨hρ.injective hu, hn⟩

/-- the vocabulary stays where it is -/
theorem relocate_builtInName (hρ : Relocation ρ) (name : String) : (builtInName name).relocate ρ = builtInName name := by
  rw [SymbolicName.relocate, builtInName, hρ.base]

theorem isBuiltIn_relocate (hρ : Relocation ρ) (n : SymbolicName) : (n.relocate ρ).isBuiltIn = n.isBuiltIn := by
  rw [SymbolicName.isBuiltIn, SymbolicName.isBuiltIn, Bool.eq_iff_iff, beq_iff_eq, beq_iff_eq]
  exact ⟨fun h => hρ.injective (h.trans hρ.base.symm), fun h => (congrArg ρ h).trans hρ.base⟩

theorem Member.relocateAll_eq_map (ms : List Member) : Member.relocateAll ρ ms = ms.map (Member.relocate ρ) := by
  induction ms with
  | nil => rfl
  | cons m ms ih => rw [Member.relocateAll, ih, List.map_cons]

theorem Member.relocateAll_append (ms ns : List Member) :
    Member.relocateAll ρ (ms ++ ns) = Member.relocateAll ρ ms ++ Member.relocateAll ρ ns := by
  rw [relocateAll_eq_map, relocateAll_eq_map, relocateAll_eq_map, List.map_append]

theorem Member.labels_relocate (m : Member) : (m.relocate ρ).labels = m.labels.relocate ρ := by
  cases m <;> rw [Member.relocate] <;> rfl

theorem Member.symbolic_relocateAll (ms : List Member) : (Member.relocateAll ρ ms).map (·.labels.symbolic) =
    (ms.map (·.labels.symbolic)).map (SymbolicName.relocate ρ) := by
  rw [relocateAll_eq_map, List.map_map, List.map_map]
  exact List.map_congr_left fun m _ => congrArg Labels.symbolic (m.labels_relocate)

@[simp] theorem Definition.name_relocate (d : Definition) : (d.relocate ρ).name = d.name.relocate ρ := rfl

@[simp] theorem Definition.kind_relocate (d : Definition) : (d.relocate ρ).kind = d.kind := by
  obtain ⟨labels, content⟩ := d
  cases content <;> rfl

theorem Definition.children_relocate (d : Definition) : (d.relocate ρ).children = Member.relocateAll ρ d.children := by
  obtain ⟨labels, content⟩ := d
  cases content <;> rfl

/-! ## Type references -/

theorem target?_relocate (n : Option SymbolicName) (role : Role) :
    target? (n.map (SymbolicName.relocate ρ)) role = (target? n role).map (Target.relocate ρ) := by
  cases n <;> rfl

theorem referenceTargets_relocate (rs : List Reference) :
    referenceTargets (rs.map (Reference.relocate ρ)) = (referenceTargets rs).map (Target.relocate ρ) := by
  rw [referenceTargets, referenceTargets, List.map_map, List.map_map]
  rfl

mutual

theorem Member.targets_relocate : ∀ m : Member, (m.relocate ρ).targets = m.targets.map (Target.relocate ρ)
  | .variableNode labels type rank access default => by
    have hdefault : (default.map (DefaultValue.relocate ρ)).map (·.dataType) =
        (default.map (·.dataType)).map (SymbolicName.relocate ρ) := by
      cases default <;> rfl
    rw [Member.relocate, Member.targets, Member.targets, hdefault, target?_relocate, target?_relocate, List.map_append]
  | .objectNode labels type references children => by
    rw [Member.relocate, Member.targets, Member.targets, target?_relocate, referenceTargets_relocate,
      Member.targetsOf_relocate children, List.map_append, List.map_append]

theorem Member.targetsOf_relocate : ∀ ms : List Member,
    Member.targetsOf (Member.relocateAll ρ ms) = (Member.targetsOf ms).map (Target.relocate ρ)
  | [] => by rw [Member.relocateAll, Member.targetsOf, List.map_nil]
  | m :: ms => by
    rw [Member.relocateAll, Member.targetsOf, Member.targetsOf, List.map_append, Member.targets_relocate m,
      Member.targetsOf_relocate ms]

end

theorem Definition.targets_relocate (d : Definition) : (d.relocate ρ).targets = d.targets.map (Target.relocate ρ) := by
  obtain ⟨labels, content⟩ := d
  cases content <;>
    simp only [Definition.relocate, Content.relocate, Definition.targets, target?_relocate, referenceTargets_relocate,
      Member.targetsOf_relocate, List.map_append]

theorem Definition.typeReferences_relocate (d : Definition) :
    (d.relocate ρ).typeReferences = d.typeReferences.map (TypeReference.relocate ρ) := by
  rw [Definition.typeReferences, Definition.typeReferences, targets_relocate, List.map_map, List.map_map]
  rfl

end Names

/-! ## The names that matter -/

/-- the names in a part -/
def Part.names : Part → List SymbolicName
  | .name _ n => [n]
  | .text _ _ => []
  | .value d => [d.dataType]

/-- the names in some parts stay in their namespaces, or go to the same ones -/
def Agree (ρ σ : String → String) (ps : List Part) : Prop :=
  ∀ p ∈ ps, ∀ n ∈ p.names, ρ n.namespaceUri = σ n.namespaceUri

section Agreement

variable {ρ σ : String → String}

theorem agree_append {ps qs : List Part} : Agree ρ σ (ps ++ qs) ↔ Agree ρ σ ps ∧ Agree ρ σ qs :=
  List.forall_mem_append

theorem SymbolicName.relocate_congr {key : String} {n : SymbolicName} (h : Agree ρ σ [.name key n]) :
    n.relocate ρ = n.relocate σ := by
  rw [relocate, relocate, h _ List.mem_cons_self n List.mem_cons_self]

theorem Labels.relocate_congr {key : String} {l : Labels} (h : Agree ρ σ [.name key l.symbolic]) :
    l.relocate ρ = l.relocate σ := by
  rw [relocate, relocate, SymbolicName.relocate_congr h]

theorem relocate_congr_nameParts {key : String} {n : Option SymbolicName} (h : Agree ρ σ (nameParts key n)) :
    n.map (SymbolicName.relocate ρ) = n.map (SymbolicName.relocate σ) := by
  cases n with
  | none => rfl
  | some n => exact congrArg some (SymbolicName.relocate_congr h)

theorem relocate_congr_references {rs : List Reference} (h : Agree ρ σ (rs.flatMap Reference.parts)) :
    rs.map (Reference.relocate ρ) = rs.map (Reference.relocate σ) := by
  refine List.map_congr_left fun r hr => ?_
  have hparts : ∀ p ∈ r.parts, ∀ n ∈ p.names, ρ n.namespaceUri = σ n.namespaceUri :=
    fun p hp => h p (List.mem_flatMap.2 ⟨r, hr, hp⟩)
  have htype := hparts _ List.mem_cons_self r.type List.mem_cons_self
  have htarget := hparts _ (List.mem_cons_of_mem _ List.mem_cons_self) r.target List.mem_cons_self
  simp only [Reference.relocate, SymbolicName.relocate, htype, htarget]

theorem relocate_congr_default {d : Option DefaultValue} (h : Agree ρ σ (d.map Part.value).toList) :
    d.map (DefaultValue.relocate ρ) = d.map (DefaultValue.relocate σ) := by
  cases d with
  | none => rfl
  | some d =>
    have htype := h _ List.mem_cons_self d.dataType List.mem_cons_self
    simp only [Option.map_some, DefaultValue.relocate, SymbolicName.relocate, htype]

mutual

theorem Member.relocate_congr : ∀ {m : Member}, Agree ρ σ m.parts → m.relocate ρ = m.relocate σ
  | .variableNode labels type rank access default, h => by
    rw [Member.parts, agree_append, agree_append, agree_append] at h
    obtain ⟨hname, htype, -, hdefault⟩ := h
    rw [Member.relocate, Member.relocate, Labels.relocate_congr hname, relocate_congr_nameParts htype,
      relocate_congr_default hdefault]
  | .objectNode labels type references children, h => by
    rw [Member.parts, agree_append, agree_append, agree_append, agree_append] at h
    obtain ⟨hname, htype, -, hchildren, hreferences⟩ := h
    rw [Member.relocate, Member.relocate, Labels.relocate_congr hname, relocate_congr_nameParts htype,
      relocate_congr_references hreferences, Member.relocateAll_congr hchildren]

theorem Member.relocateAll_congr : ∀ {ms : List Member}, Agree ρ σ (Member.partsOf ms) →
    Member.relocateAll ρ ms = Member.relocateAll σ ms
  | [], _ => by rw [Member.relocateAll, Member.relocateAll]
  | m :: ms, h => by
    rw [Member.partsOf, agree_append] at h
    rw [Member.relocateAll, Member.relocateAll, Member.relocate_congr h.1, Member.relocateAll_congr h.2]

end

theorem Content.relocate_congr {c : Content} (hnames : Agree ρ σ c.nameParts) (hinner : Agree ρ σ c.innerParts) :
    c.relocate ρ = c.relocate σ := by
  cases c with
  | dataType base fields => rw [relocate, relocate, relocate_congr_nameParts hnames]
  | objectType base isAbstract children =>
    rw [relocate, relocate, relocate_congr_nameParts hnames, Member.relocateAll_congr hinner]
  | variableType base type rank =>
    obtain ⟨hbase, htype⟩ := agree_append.1 hnames
    rw [relocate, relocate, relocate_congr_nameParts hbase, relocate_congr_nameParts htype]
  | referenceType base => rw [relocate, relocate, relocate_congr_nameParts hnames]
  | object type references children =>
    obtain ⟨hchildren, hreferences⟩ := agree_append.1 hinner
    rw [relocate, relocate, relocate_congr_nameParts hnames, relocate_congr_references hreferences,
      Member.relocateAll_congr hchildren]

/-- where a definition goes depends on the namespaces of its names only -/
theorem Definition.relocate_congr {d : Definition} (h : Agree ρ σ d.parts) : d.relocate ρ = d.relocate σ := by
  rw [Definition.parts, agree_append, agree_append, agree_append] at h
  obtain ⟨hname, hnames, -, hinner⟩ := h
  have hlabels : d.labels.relocate ρ = d.labels.relocate σ := Labels.relocate_congr (l := d.labels) hname
  rw [relocate, relocate, hlabels, Content.relocate_congr hnames hinner]

/-- in a regular design, the namespace of the design is exchanged for another one exactly if it is replaced by it -/
theorem Definition.relocate_swap {d : Definition} {t t' : String} (ht : t ≠ baseUri) (ht' : t' ≠ baseUri)
    (h : Regular t d.parts) : d.relocate (Equiv.swap t t') = d.relocate (Function.update id t t') := by
  refine relocate_congr fun p hp n hn => ?_
  have hhome : n.namespaceUri = t ∨ n.namespaceUri = baseUri := by
    have hregular := h p hp
    cases p with
    | name key m =>
      obtain rfl := List.mem_singleton.1 hn
      exact hregular.bound
    | text slot s => cases hn
    | value d =>
      obtain rfl := List.mem_singleton.1 hn
      exact hregular.bound
  rcases hhome with hn | hn
  · rw [hn, Equiv.swap_apply_left, Function.update_self]
  · rw [hn, Equiv.swap_apply_of_ne_of_ne ht.symm ht'.symm, Function.update_of_ne ht.symm]
    rfl

end Agreement

end YangDesign.Design
