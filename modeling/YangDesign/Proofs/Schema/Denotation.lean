/-
What a type name denotes, said without an order in which typedefs are resolved.

A binding says which typedef a name stands for. Under a binding, a reference denotes a built-in type, or what it makes of the
type of the typedef that its name stands for (`Denotes`); a typedef has the type of the reference that it asks for, read where
the typedef is declared (`Declaration.Has`). `Leads` is one step from a typedef to the one that it asks for. A typedef that
has a type does not lead back to itself (`Has.not_leads_back`), and what it leads to is in reach
(`Surroundings.mem_inReach_of_leads`).
-/
import YangDesign.Proofs.Answers
import YangDesign.Schema.Resolve

namespace YangDesign.Schema

open Relation

/-! ## Denotation -/

/-- which typedef a name stands for, where it is used in a namespace and a scope -/
abbrev Binding := String → String → Scope → Declaration → Prop

/-- the type that a reference at a path denotes, where it is used in a namespace and a scope -/
inductive Denotes (binds : Binding) : TypeRef → String → List String → Scope → TypeDef → Prop where
  | builtIn {ref : TypeRef} {uri : String} {owner : List String} {scope : Scope} {b : BuiltIn} {enums : List EnumValue} :
    ref.builtIn? = some b → resolveEnums owner (ref.enums.getD []) = .ok enums → (enums = [] ∨ b = .enumeration) →
    Denotes binds ref uri owner scope ⟨⟨uri, b.name⟩, owner ++ [b.name], .builtIn b, none, enums, ref.description⟩
  | typedef {ref : TypeRef} {uri : String} {owner : List String} {scope : Scope} {x : Declaration} {inner : TypeDef}
    {enums : List EnumValue} : ref.builtIn? = none → binds ref.name uri scope x →
    Denotes binds x.typedef.type x.uri x.typedef.path x.scope inner →
    resolveEnums owner (ref.enums.getD []) = .ok enums → (enums = [] ∨ inner.kind = .builtIn .enumeration) →
    Denotes binds ref uri owner scope (ref.refine uri owner enums (x.over inner))

/-- the type of a typedef -/
def Declaration.Has (binds : Binding) (x : Declaration) (t : TypeDef) : Prop :=
  ∃ inner, Denotes binds x.typedef.type x.uri x.typedef.path x.scope inner ∧ t = x.over inner

/-- what a reference denotes, given the types that typedefs have -/
inductive Gives (binds : Binding) (has : Declaration → TypeDef → Prop) (ref : TypeRef) (uri : String)
    (owner : List String) (scope : Scope) : TypeDef → Prop where
  | builtIn {b : BuiltIn} {enums : List EnumValue} : ref.builtIn? = some b →
    resolveEnums owner (ref.enums.getD []) = .ok enums → (enums = [] ∨ b = .enumeration) →
    Gives binds has ref uri owner scope ⟨⟨uri, b.name⟩, owner ++ [b.name], .builtIn b, none, enums, ref.description⟩
  | typedef {x : Declaration} {base : TypeDef} {enums : List EnumValue} : ref.builtIn? = none →
    binds ref.name uri scope x → has x base → resolveEnums owner (ref.enums.getD []) = .ok enums →
    (enums = [] ∨ base.kind = .builtIn .enumeration) →
    Gives binds has ref uri owner scope (ref.refine uri owner enums base)

/-- a typedef asks for another one -/
def Leads (binds : Binding) (x y : Declaration) : Prop :=
  x.typedef.type.builtIn? = none ∧ binds x.typedef.type.name x.uri x.scope y

/-- a name stands for one typedef at most -/
def Binding.Functional (binds : Binding) : Prop :=
  ∀ name uri scope x y, binds name uri scope x → binds name uri scope y → x = y

variable {binds : Binding}

/-- **Induction along typedefs.** What holds of a typedef once it holds of the one that it asks for holds of all that have a
type. -/
theorem Declaration.Has.induct (hb : binds.Functional) {P : Declaration → TypeDef → Prop}
    (step : ∀ x t, x.Has binds t → (∀ y, Leads binds x y → ∃ u, y.Has binds u ∧ P y u) → P x t) {x : Declaration}
    {t : TypeDef} (h : x.Has binds t) : P x t := by
  have next : ∀ {ref : TypeRef} {uri : String} {owner : List String} {scope : Scope} {t : TypeDef},
      Denotes binds ref uri owner scope t → ref.builtIn? = none → ∀ y, binds ref.name uri scope y →
      ∃ u, y.Has binds u ∧ P y u := by
    intro ref uri owner scope t h
    induction h with
    | builtIn hb => exact fun hn => by rw [hb] at hn; cases hn
    | @typedef ref uri owner scope x inner enums _ hx hinner _ _ ih =>
      intro _ y hy
      obtain rfl := hb _ _ _ _ _ hx hy
      have hhas : x.Has binds (x.over inner) := ⟨inner, hinner, rfl⟩
      exact ⟨_, hhas, step _ _ hhas fun y hy => ih hy.1 y hy.2⟩
  obtain ⟨inner, hinner, rfl⟩ := h
  exact step _ _ ⟨inner, hinner, rfl⟩ fun y hy => next hinner hy.1 y hy.2

/-- **A typedef that has a type does not lead back to itself.** -/
theorem Declaration.Has.not_leads_back (hb : binds.Functional) {x : Declaration} {t : TypeDef} (h : x.Has binds t) :
    ¬ TransGen (Leads binds) x x := by
  refine Declaration.Has.induct hb (P := fun x _ => ¬ TransGen (Leads binds) x x) (fun x t _ ih hcycle => ?_) h
  obtain ⟨y, hy, hback⟩ := TransGen.head'_iff.1 hcycle
  obtain ⟨_, -, hnot⟩ := ih y hy
  exact hnot (TransGen.tail' hback hy)

theorem Denotes.unique (hb : binds.Functional) {ref : TypeRef} {uri : String} {owner : List String} {scope : Scope}
    {t u : TypeDef} (h : Denotes binds ref uri owner scope t) (k : Denotes binds ref uri owner scope u) : t = u := by
  induction h generalizing u with
  | builtIn hbuilt henums _ =>
    cases k with
    | builtIn hbuilt' henums' _ =>
      cases hbuilt.symm.trans hbuilt'
      cases henums.symm.trans henums'
      rfl
    | typedef hnone => rw [hnone] at hbuilt; cases hbuilt
  | typedef hnone hx _ henums _ ih =>
    cases k with
    | builtIn hbuilt => rw [hnone] at hbuilt; cases hbuilt
    | typedef _ hx' hinner' henums' _ =>
      obtain rfl := hb _ _ _ _ _ hx hx'
      cases henums.symm.trans henums'
      rw [ih hinner']

theorem Declaration.Has.unique (hb : binds.Functional) {x : Declaration} {t u : TypeDef} (h : x.Has binds t)
    (k : x.Has binds u) : t = u := by
  obtain ⟨inner, hinner, rfl⟩ := h
  obtain ⟨inner', hinner', rfl⟩ := k
  rw [hinner.unique hb hinner']

/-- denotations go over to a binding that agrees in the scopes of a class -/
theorem Denotes.imp {binds' : Binding} {good : Scope → Prop}
    (hb : ∀ name uri scope x, good scope → binds name uri scope x → binds' name uri scope x ∧ good x.scope)
    {ref : TypeRef} {uri : String} {owner : List String} {scope : Scope} {t : TypeDef}
    (h : Denotes binds ref uri owner scope t) (hgood : good scope) : Denotes binds' ref uri owner scope t := by
  induction h with
  | builtIn hbuilt henums hfit => exact .builtIn hbuilt henums hfit
  | typedef hnone hx _ henums hfit ih =>
    obtain ⟨hx', hscope⟩ := hb _ _ _ _ hgood hx
    exact .typedef hnone hx' (ih hscope) henums hfit

theorem Denotes.mono {binds' : Binding} (hb : ∀ name uri scope x, binds name uri scope x → binds' name uri scope x)
    {ref : TypeRef} {uri : String} {owner : List String} {scope : Scope} {t : TypeDef}
    (h : Denotes binds ref uri owner scope t) : Denotes binds' ref uri owner scope t :=
  @Denotes.imp binds binds' (fun _ => True) (fun name uri scope x _ hx => ⟨hb name uri scope x hx, trivial⟩) _ _ _ _ _ h
    trivial

section Gives

variable {has has' : Declaration → TypeDef → Prop} {ref : TypeRef} {uri : String} {owner : List String} {scope : Scope}
  {t : TypeDef}

theorem Gives.mono (hhas : ∀ x, ref.builtIn? = none → binds ref.name uri scope x → ∀ u, has x u → has' x u)
    (h : Gives binds has ref uri owner scope t) : Gives binds has' ref uri owner scope t := by
  cases h with
  | builtIn hbuilt henums hfit => exact .builtIn hbuilt henums hfit
  | typedef hnone hx hbase henums hfit => exact .typedef hnone hx (hhas _ hnone hx _ hbase) henums hfit

theorem gives_congr (hhas : ∀ x, ref.builtIn? = none → binds ref.name uri scope x → ∀ u, has x u ↔ has' x u) :
    Gives binds has ref uri owner scope t ↔ Gives binds has' ref uri owner scope t :=
  ⟨.mono fun x hn hx u => (hhas x hn hx u).1, .mono fun x hn hx u => (hhas x hn hx u).2⟩

/-- denotation is its own step -/
theorem denotes_iff_gives : Denotes binds ref uri owner scope t ↔ Gives binds (Declaration.Has binds) ref uri owner scope t := by
  constructor
  · rintro (⟨hbuilt, henums, hfit⟩ | ⟨hnone, hx, hinner, henums, hfit⟩)
    · exact .builtIn hbuilt henums hfit
    · exact .typedef hnone hx ⟨_, hinner, rfl⟩ henums hfit
  · intro h
    cases h with
    | builtIn hbuilt henums hfit => exact .builtIn hbuilt henums hfit
    | typedef hnone hx hbase henums hfit =>
      obtain ⟨inner, hinner, rfl⟩ := hbase
      exact .typedef hnone hx hinner henums hfit

end Gives

/-! ## Look-up -/

namespace Surroundings

/-- the binding by look-up -/
def Binds (env : Surroundings) : Binding := fun name uri scope x => ∃ path, env.typedefOf name uri scope path = .ok x

variable {env : Surroundings}

theorem namespaceOf_eq_ok_iff {label uri : String} {path : List String} :
    env.namespaceOf label path = .ok uri ↔ env.namespaces.find? label = some uri := by
  unfold namespaceOf
  cases env.namespaces.find? label <;> simp [refuse]

theorem placeOf_eq_ok_iff {uri uri' : String} {scope scope' : Scope} {path : List String} {label : Option String} :
    env.placeOf uri scope path label = .ok (uri', scope') ↔
      (uri' = uri ∧ scope' = scope ∧ ∀ l, label = some l → env.namespaces.find? l = some uri) ∨
      (uri' ≠ uri ∧ scope' = [(env.frames.find? uri').getD []] ∧
        ∃ l, label = some l ∧ env.namespaces.find? l = some uri') := by
  cases label with
  | none =>
    simp [placeOf, eq_comm]
  | some label =>
    simp only [placeOf, bind_eq_ok_iff, namespaceOf_eq_ok_iff, Option.some.injEq, forall_eq', exists_eq_left']
    constructor
    · rintro ⟨other, hother, h⟩
      split at h
      · rename_i heq
        cases h
        exact .inl ⟨rfl, rfl, heq ▸ hother⟩
      · rename_i hne
        cases h
        exact .inr ⟨hne, rfl, hother⟩
    · rintro (⟨rfl, rfl, hfind⟩ | ⟨hne, rfl, hfind⟩)
      · exact ⟨uri', hfind, by rw [if_pos rfl]; rfl⟩
      · exact ⟨uri', hfind, by rw [if_neg hne]; rfl⟩

/-- a name is looked up where it is used, or at the top of the module that its prefix stands for -/
theorem typedefOf_eq_ok_iff {name uri : String} {scope : Scope} {path : List String} {x : Declaration} :
    env.typedefOf name uri scope path = .ok x ↔
      (x.uri = uri ∧ lookUp (Text.splitQualified name).2 scope = some (x.typedef, x.scope) ∧
        ∀ label, (Text.splitQualified name).1 = some label → env.namespaces.find? label = some uri) ∨
      (x.uri ≠ uri ∧ lookUp (Text.splitQualified name).2 [(env.frames.find? x.uri).getD []] = some (x.typedef, x.scope) ∧
        ∃ label, (Text.splitQualified name).1 = some label ∧ env.namespaces.find? label = some x.uri) := by
  have hstep : env.typedefOf name uri scope path = .ok x ↔
      ∃ s, env.placeOf uri scope path (Text.splitQualified name).1 = .ok (x.uri, s) ∧
        lookUp (Text.splitQualified name).2 s = some (x.typedef, x.scope) := by
    simp only [typedefOf, bind_eq_ok_iff, Prod.exists]
    constructor
    · rintro ⟨uri', s, hplace, h⟩
      split at h
      · rename_i hd
        cases h
        exact ⟨s, hplace, hd⟩
      · cases h
    · rintro ⟨s, hplace, hd⟩
      exact ⟨x.uri, s, hplace, by rw [hd]; rfl⟩
  rw [hstep]
  constructor
  · rintro ⟨s, hplace, hd⟩
    rcases placeOf_eq_ok_iff.1 hplace with ⟨huri, rfl, hlabel⟩ | ⟨hne, rfl, hlabel⟩
    · exact .inl ⟨huri, hd, hlabel⟩
    · exact .inr ⟨hne, hd, hlabel⟩
  · rintro (⟨huri, hd, hlabel⟩ | ⟨hne, hd, hlabel⟩)
    · exact ⟨scope, placeOf_eq_ok_iff.2 (.inl ⟨huri, rfl, hlabel⟩), hd⟩
    · exact ⟨_, placeOf_eq_ok_iff.2 (.inr ⟨hne, rfl, hlabel⟩), hd⟩

theorem binds_iff_typedefOf {name uri : String} {scope : Scope} {x : Declaration} (path : List String) :
    env.Binds name uri scope x ↔ env.typedefOf name uri scope path = .ok x :=
  ⟨fun ⟨_, h⟩ => typedefOf_eq_ok_iff.2 (typedefOf_eq_ok_iff.1 h), fun h => ⟨path, h⟩⟩

theorem binds_functional (env : Surroundings) : Binding.Functional env.Binds := by
  rintro name uri scope x y ⟨path, hx⟩ hy
  cases hx.symm.trans ((binds_iff_typedefOf path).1 hy)
  rfl

end Surroundings

/-- **A reference gives a type exactly as its name is bound**, with the types that are found for typedefs. -/
theorem typeOfRef_eq_ok_iff {env : Surroundings} {typeOf : Declaration → Resolved TypeDef} {ref : TypeRef} {uri : String}
    {owner : List String} {scope : Scope} {t : TypeDef} : typeOfRef env typeOf ref uri owner scope = .ok t ↔
      Gives env.Binds (fun x u => typeOf x = .ok u) ref uri owner scope t := by
  unfold typeOfRef
  constructor
  · intro h
    obtain ⟨enums, henums, h⟩ := ok_of_bind h
    split at h
    · rename_i b hb
      split at h
      · cases h
      · rename_i hfit
        cases h
        refine .builtIn hb henums ?_
        simpa [Classical.or_iff_not_imp_left] using hfit
    · rename_i hnone
      obtain ⟨x, hx, h⟩ := ok_of_bind h
      obtain ⟨base, hbase, h⟩ := ok_of_bind h
      split at h
      · cases h
      · rename_i hfit
        cases h
        refine .typedef hnone ⟨owner, hx⟩ hbase henums ?_
        simpa [Classical.or_iff_not_imp_left] using hfit
  · intro h
    cases h with
    | builtIn hb henums hfit =>
      refine bind_eq_ok_iff.2 ⟨_, henums, ?_⟩
      rw [hb]
      dsimp only
      rw [if_neg (by simpa [Classical.or_iff_not_imp_left] using hfit)]
      rfl
    | typedef hnone hx hbase henums hfit =>
      refine bind_eq_ok_iff.2 ⟨_, henums, ?_⟩
      rw [hnone]
      refine bind_eq_ok_iff.2 ⟨_, (Surroundings.binds_iff_typedefOf owner).1 hx, bind_eq_ok_iff.2 ⟨_, hbase, ?_⟩⟩
      rw [if_neg (by simpa [Classical.or_iff_not_imp_left] using hfit)]
      rfl

/-! ## Reach -/

theorem mem_declarations {uri : String} {scope : Scope} {x : Declaration} : x ∈ declarations uri scope ↔
    x.uri = uri ∧ ∃ f fs, x.scope = f :: fs ∧ f :: fs <:+ scope ∧ x.typedef ∈ f := by
  induction scope with
  | nil => simp [declarations]
  | cons g gs ih =>
    rw [declarations, List.mem_append, List.mem_map, ih]
    constructor
    · rintro (⟨d, hd, rfl⟩ | ⟨huri, f, fs, hscope, hsuffix, hx⟩)
      · exact ⟨rfl, g, gs, rfl, List.suffix_rfl, hd⟩
      · exact ⟨huri, f, fs, hscope, hsuffix.trans (List.suffix_cons g gs), hx⟩
    · rintro ⟨huri, f, fs, hscope, hsuffix, hx⟩
      rcases List.suffix_cons_iff.1 hsuffix with heq | hsuffix
      · cases heq
        exact .inl ⟨x.typedef, hx, by rw [← huri, ← hscope]⟩
      · exact .inr ⟨huri, f, fs, hscope, hsuffix, hx⟩

theorem lookUp_mem_declarations {name : String} (uri : String) {scope s : Scope} {d : TypedefDecl}
    (h : lookUp name scope = some (d, s)) : ⟨d, uri, s⟩ ∈ declarations uri scope := by
  induction scope with
  | nil => cases h
  | cons f fs ih =>
    rw [declarations, List.mem_append, List.mem_map]
    unfold lookUp at h
    split at h
    · rename_i hd
      cases h
      exact .inl ⟨d, List.mem_of_find?_eq_some hd, rfl⟩
    · exact .inr (ih h)

theorem declarations_subset {uri : String} {s scope : Scope} (h : s <:+ scope) :
    declarations uri s ⊆ declarations uri scope := by
  intro x hx
  obtain ⟨huri, f, fs, hscope, hsuffix, hd⟩ := mem_declarations.1 hx
  exact mem_declarations.2 ⟨huri, f, fs, hscope, hsuffix.trans h, hd⟩

namespace Surroundings

variable {env : Surroundings} {uri : String} {scope : Scope} {x y : Declaration}

theorem mem_inReach : x ∈ env.inReach uri scope ↔
    x ∈ declarations uri scope ∨ ∃ p ∈ env.frames.toList, x ∈ declarations p.1 [p.2] := by
  rw [inReach, List.mem_append, List.mem_flatMap]

theorem self_mem_inReach (h : x.typedef ∈ x.scope.headD []) : x ∈ env.inReach x.uri x.scope := by
  refine mem_inReach.2 (.inl (mem_declarations.2 ?_))
  cases hscope : x.scope with
  | nil => rw [hscope] at h; cases h
  | cons f fs =>
    rw [hscope] at h
    exact ⟨rfl, f, fs, rfl, List.suffix_rfl, h⟩

/-- **Reach is closed.** What a typedef in reach leads to is in reach. -/
theorem mem_inReach_of_leads (hx : x ∈ env.inReach uri scope) (h : Leads env.Binds x y) : y ∈ env.inReach uri scope := by
  obtain ⟨-, path, h⟩ := h
  rcases typedefOf_eq_ok_iff.1 h with ⟨huri, hd, -⟩ | ⟨-, hd, -⟩
  · have hy : y ∈ declarations x.uri x.scope := by
      rw [← huri]
      exact lookUp_mem_declarations y.uri hd
    rcases mem_inReach.1 hx with hx | ⟨p, hp, hx⟩ <;> obtain ⟨hxuri, f, fs, hscope, hsuffix, -⟩ := mem_declarations.1 hx
    · exact mem_inReach.2 (.inl (hxuri ▸ declarations_subset (hscope ▸ hsuffix) hy))
    · exact mem_inReach.2 (.inr ⟨p, hp, hxuri ▸ declarations_subset (hscope ▸ hsuffix) hy⟩)
  · cases hf : env.frames.find? y.uri with
    | none => rw [hf] at hd; cases hd
    | some f =>
      rw [hf] at hd
      exact mem_inReach.2 (.inr ⟨(y.uri, f), Assoc.mem_of_find? hf, lookUp_mem_declarations _ hd⟩)

end Surroundings

end YangDesign.Schema
