/-
What the type names of a document denote, by static scope.

A name without a prefix, or with a prefix of the namespace in which it is used, denotes the typedef of the innermost statement
list around it that declares the name (`Innermost`); a prefix of another namespace denotes a typedef at the top of that module.
`Document.Binds` says so of the modules of a document, without a table and without an order. `Document.uses` lists the leaves,
leaf-lists and typedefs of a document with the statement lists around them.

Look-up finds what a name denotes (`Document.binds_of_lookUp`), and, where no list declares a name twice, all that it denotes
(`Document.Binds.lookUp`). The typedefs of a document are closed under what their names denote
(`Document.mem_typedefs_of_leads`).
-/
import YangDesign.Proofs.Schema.Remembering

namespace YangDesign.Schema

open Relation

/-! ## Declarations -/

/-- the typedef that a statement in a list at a path declares -/
def Statement.typedef? (path : List String) : Statement → Option TypedefDecl
  | .named name description (.typedef type) _ => some ⟨name, type, description, path ++ [name]⟩
  | _ => none

/-- the typedefs that a statement list at a path declares -/
def declaredIn (path : List String) (ss : List Statement) : Frame :=
  ss.filterMap (·.typedef? path)

/-- no name is declared twice -/
def Frame.Distinct (f : Frame) : Prop :=
  (f.map (·.name)).Nodup

/-- in none of the lists around is a name declared twice -/
def Scope.Distinct (scope : Scope) : Prop :=
  ∀ f ∈ scope, f.Distinct

/-- the typedef of the innermost list that declares a name, with the lists around that typedef -/
inductive Innermost (name : String) : Scope → TypedefDecl → Scope → Prop where
  | here {f : Frame} {fs : Scope} {t : TypedefDecl} : t ∈ f → t.name = name → Innermost name (f :: fs) t (f :: fs)
  | outer {f : Frame} {fs : Scope} {t : TypedefDecl} {s : Scope} : (∀ e ∈ f, e.name ≠ name) → Innermost name fs t s →
    Innermost name (f :: fs) t s

namespace Document

/-- the namespace of the last module that has a label as its name or its prefix -/
def namespaceOf? (d : Document) (label : String) : Option String :=
  (d.modules.reverse.find? fun m => m.name == label || m.modulePrefix == label).map (·.namespaceUri)

/-- the typedef that a name denotes, where it is used in a namespace and a scope -/
inductive Binds (d : Document) (name uri : String) (scope : Scope) : Declaration → Prop where
  | own {t : TypedefDecl} {s : Scope} :
    (∀ label, (Text.splitQualified name).1 = some label → d.namespaceOf? label = some uri) →
    Innermost (Text.splitQualified name).2 scope t s → Binds d name uri scope ⟨t, uri, s⟩
  | foreign {label : String} {m : ModuleDecl} {t : TypedefDecl} {s : Scope} :
    (Text.splitQualified name).1 = some label → m ∈ d.modules → d.namespaceOf? label = some m.namespaceUri →
    m.namespaceUri ≠ uri → Innermost (Text.splitQualified name).2 [declaredIn [] m.statements] t s →
    Binds d name uri scope ⟨t, m.namespaceUri, s⟩

end Document

/-! ## Frames -/

theorem declaredIn_cons (path : List String) (s : Statement) (ss : List Statement) :
    declaredIn path (s :: ss) = (s.typedef? path).toList ++ declaredIn path ss := by
  unfold declaredIn
  cases h : s.typedef? path <;> simp [h]

theorem mem_declaredIn {path : List String} {ss : List Statement} {t : TypedefDecl} : t ∈ declaredIn path ss ↔
    ∃ name description type children, .named name description (.typedef type) children ∈ ss ∧
      t = ⟨name, type, description, path ++ [name]⟩ := by
  unfold declaredIn Statement.typedef?
  rw [List.mem_filterMap]
  constructor
  · rintro ⟨s, hs, ht⟩
    split at ht
    · cases ht
      exact ⟨_, _, _, _, hs, rfl⟩
    · cases ht
  · rintro ⟨name, description, type, children, hs, rfl⟩
    exact ⟨_, hs, rfl⟩

theorem Frame.Distinct.find? {f : Frame} (hf : f.Distinct) {t : TypedefDecl} (ht : t ∈ f) : f.find? t.name = some t := by
  induction f with
  | nil => cases ht
  | cons e f ih =>
    obtain ⟨he, hf⟩ := List.nodup_cons.1 hf
    unfold Frame.find?
    rw [List.find?_cons]
    rcases List.mem_cons.1 ht with rfl | ht
    · simp
    · have hne : e.name ≠ t.name := fun h => he (List.mem_map.2 ⟨t, ht, h.symm⟩)
      simp only [beq_eq_false_iff_ne.2 hne]
      exact ih hf ht

theorem Frame.find?_eq_none_iff {f : Frame} {name : String} : f.find? name = none ↔ ∀ t ∈ f, t.name ≠ name := by
  simp [Frame.find?]

theorem Frame.distinct_snoc {f : Frame} {t : TypedefDecl} :
    Frame.Distinct (f ++ [t]) ↔ f.Distinct ∧ f.find? t.name = none := by
  rw [Frame.find?_eq_none_iff, Frame.Distinct, List.map_append, List.nodup_append]
  simp [Frame.Distinct]

theorem declare_eq_ok_iff {path : List String} {f f' : Frame} {ss : List Statement} (hf : f.Distinct) :
    Frame.declare path f ss = .ok f' ↔ f' = f ++ declaredIn path ss ∧ f'.Distinct := by
  induction ss generalizing f with
  | nil =>
    simp only [Frame.declare, declaredIn, List.filterMap_nil, List.append_nil, Except.ok.injEq]
    exact ⟨fun h => ⟨h.symm, h ▸ hf⟩, fun h => h.1.symm⟩
  | cons s ss ih =>
    rw [declaredIn_cons]
    unfold Frame.declare
    split
    · rename_i heq
      cases heq
    · rename_i name description type children ss' heq
      cases heq
      rw [Statement.typedef?, Option.toList_some, ← List.append_assoc]
      cases hfind : f.find? name with
      | some t =>
        rw [if_pos (by rfl)]
        refine ⟨fun h => ?_, fun ⟨heq, hdistinct⟩ => ?_⟩
        · cases h
        · rw [heq, Frame.Distinct, List.map_append] at hdistinct
          have hnone := (Frame.distinct_snoc.1 (List.nodup_append.1 hdistinct).1).2
          rw [hfind] at hnone
          cases hnone
      | none =>
        rw [if_neg (by simp)]
        exact ih (Frame.distinct_snoc.2 ⟨hf, hfind⟩)
    · rename_i hother heq
      cases heq
      have hnone : s.typedef? path = none := by
        unfold Statement.typedef?
        split
        · exact (hother _ _ _ _ rfl).elim
        · rfl
      rw [hnone, Option.toList_none, List.nil_append]
      exact ih hf

theorem openFrame_eq_ok_iff {path : List String} {f : Frame} {ss : List Statement} :
    openFrame path ss = .ok f ↔ f = declaredIn path ss ∧ f.Distinct := by
  rw [← List.nil_append (declaredIn path ss), ← declare_eq_ok_iff (show Frame.Distinct [] from List.nodup_nil)]
  unfold openFrame Frame.ofStatements
  cases Frame.declare path [] ss <;> simp [refuse]

/-! ## Look-up -/

theorem innermost_of_lookUp {name : String} {scope s : Scope} {t : TypedefDecl} (h : lookUp name scope = some (t, s)) :
    Innermost name scope t s := by
  induction scope with
  | nil => cases h
  | cons f fs ih =>
    unfold lookUp at h
    split at h
    · rename_i ht
      cases h
      exact .here (List.mem_of_find?_eq_some ht) (by simpa using List.find?_some ht)
    · rename_i hnone
      exact .outer (Frame.find?_eq_none_iff.1 hnone) (ih h)

theorem Innermost.lookUp {name : String} {scope s : Scope} {t : TypedefDecl} (h : Innermost name scope t s)
    (hs : scope.Distinct) : lookUp name scope = some (t, s) := by
  induction h with
  | here ht hname =>
    subst hname
    rw [Schema.lookUp, (hs _ List.mem_cons_self).find? ht]
  | outer hnot _ ih =>
    rw [Schema.lookUp, Frame.find?_eq_none_iff.2 hnot]
    exact ih fun f hf => hs f (List.mem_cons_of_mem _ hf)

theorem Innermost.suffix {name : String} {scope s : Scope} {t : TypedefDecl} (h : Innermost name scope t s) :
    s <:+ scope := by
  induction h with
  | here => exact List.suffix_rfl
  | outer _ _ ih => exact ih.trans (List.suffix_cons _ _)

theorem Innermost.mem {name : String} {scope s : Scope} {t : TypedefDecl} (h : Innermost name scope t s) :
    ∃ f fs, s = f :: fs ∧ t ∈ f := by
  induction h with
  | here ht => exact ⟨_, _, rfl, ht⟩
  | outer _ _ ih => exact ih

/-! ## What modules offer -/

/-- the last module of a namespace offers its typedefs, and the last one of a label its namespace -/
theorem offers_of_foldlM {ms : List ModuleDecl} {env env' : Surroundings} (h : ms.foldlM Surroundings.add env = .ok env') :
    (∀ label, env'.namespaces.find? label =
      ((ms.reverse.find? fun m => m.name == label || m.modulePrefix == label).map (·.namespaceUri)).or
        (env.namespaces.find? label)) ∧
    (∀ uri, env'.frames.find? uri =
      ((ms.reverse.find? (·.namespaceUri == uri)).map fun m => declaredIn [] m.statements).or (env.frames.find? uri)) ∧
    ∀ m ∈ ms, (declaredIn [] m.statements).Distinct := by
  induction ms generalizing env with
  | nil =>
    cases h
    simp
  | cons m ms ih =>
    rw [List.foldlM_cons] at h
    obtain ⟨env1, h1, h⟩ := ok_of_bind h
    obtain ⟨f, hf, h1⟩ := ok_of_bind h1
    obtain ⟨rfl, hdistinct⟩ := openFrame_eq_ok_iff.1 hf
    cases h1
    obtain ⟨hlabels, hframes, hrest⟩ := ih h
    refine ⟨fun label => ?_, fun uri => ?_, List.forall_mem_cons.2 ⟨hdistinct, hrest⟩⟩
    · rw [hlabels, List.reverse_cons, List.find?_append, Assoc.find?_insert, Assoc.find?_insert]
      cases ms.reverse.find? fun m => m.name == label || m.modulePrefix == label <;>
        by_cases hname : m.name = label <;> by_cases hprefix : m.modulePrefix = label <;> simp [hname, hprefix]
    · rw [hframes, List.reverse_cons, List.find?_append, Assoc.find?_insert]
      cases ms.reverse.find? (·.namespaceUri == uri) <;> by_cases huri : m.namespaceUri = uri <;> simp [huri]

namespace Document

variable {d : Document} {env : Surroundings}

theorem namespaces_of_surroundings (h : d.surroundings = .ok env) (label : String) :
    env.namespaces.find? label = d.namespaceOf? label := by
  rw [(offers_of_foldlM h).1 label]
  exact Option.or_none

/-- no two modules have a namespace in common -/
def Apart (d : Document) : Prop :=
  (d.modules.map (·.namespaceUri)).Nodup

instance (d : Document) : Decidable d.Apart :=
  inferInstanceAs (Decidable (d.modules.map (·.namespaceUri)).Nodup)

/-- where namespaces are distinct, a module is the last one of its namespace -/
theorem find?_reverse_of_apart (hd : d.Apart) {m : ModuleDecl} (hm : m ∈ d.modules) :
    d.modules.reverse.find? (·.namespaceUri == m.namespaceUri) = some m := by
  cases hk : d.modules.reverse.find? (·.namespaceUri == m.namespaceUri) with
  | none =>
    have hnot := List.find?_eq_none.1 hk m (List.mem_reverse.2 hm)
    simp at hnot
  | some m' =>
    have hm' := List.mem_reverse.1 (List.mem_of_find?_eq_some hk)
    rw [List.inj_on_of_nodup_map hd hm' hm (by simpa using List.find?_some hk)]

/-- the typedefs that a module offers are those at its top -/
theorem frames_of_surroundings (h : d.surroundings = .ok env) (hd : d.Apart) {m : ModuleDecl} (hm : m ∈ d.modules) :
    env.frames.find? m.namespaceUri = some (declaredIn [] m.statements) ∧ (declaredIn [] m.statements).Distinct := by
  obtain ⟨-, hframes, hdistinct⟩ := offers_of_foldlM h
  refine ⟨?_, hdistinct m hm⟩
  rw [hframes, find?_reverse_of_apart hd hm]
  rfl

/-- a typedef that is offered stands at the top of a module of the namespace -/
theorem mem_modules_of_frame (h : d.surroundings = .ok env) {uri : String} {f : Frame} (hf : env.frames.find? uri = some f) :
    ∃ m ∈ d.modules, m.namespaceUri = uri ∧ f = declaredIn [] m.statements := by
  rw [(offers_of_foldlM h).2.1, show (Assoc.empty : Assoc String Frame).find? uri = none from rfl, Option.or_none,
    Option.map_eq_some_iff] at hf
  obtain ⟨m, hm, rfl⟩ := hf
  exact ⟨m, List.mem_reverse.1 (List.mem_of_find?_eq_some hm), by simpa using List.find?_some hm, rfl⟩

/-- **What is looked up is what static scope says.** -/
theorem binds_of_lookUp (h : d.surroundings = .ok env) {name uri : String} {scope : Scope} {x : Declaration}
    (hx : env.Binds name uri scope x) : d.Binds name uri scope x := by
  obtain ⟨t, uri', s⟩ := x
  obtain ⟨path, hx⟩ := hx
  rcases Surroundings.typedefOf_eq_ok_iff.1 hx with ⟨rfl, ht, hlabel⟩ | ⟨hne, ht, label, hname, hlabel⟩
  · refine .own (fun label hname => ?_) (innermost_of_lookUp ht)
    rw [← namespaces_of_surroundings h]
    exact hlabel label hname
  · rw [namespaces_of_surroundings h] at hlabel
    cases hf : env.frames.find? uri' with
    | none =>
      rw [hf] at ht
      cases ht
    | some f =>
      rw [hf] at ht
      obtain ⟨m, hm, rfl, rfl⟩ := mem_modules_of_frame h hf
      exact .foreign hname hm hlabel hne (innermost_of_lookUp ht)

/-- **Where no list declares a name twice, all that a name denotes is looked up**, and none does around it either. -/
theorem Binds.lookUp (h : d.surroundings = .ok env) (hd : d.Apart) {name uri : String} {scope : Scope} {x : Declaration}
    (hs : scope.Distinct) (hx : d.Binds name uri scope x) : env.Binds name uri scope x ∧ x.scope.Distinct := by
  cases hx with
  | own hlabel ht =>
    refine ⟨⟨[], Surroundings.typedefOf_eq_ok_iff.2 (.inl ⟨rfl, ht.lookUp hs, fun label hname => ?_⟩)⟩,
      fun f hf => hs f (ht.suffix.subset hf)⟩
    rw [namespaces_of_surroundings h]
    exact hlabel label hname
  | @foreign label m _ _ hname hm hlabel hne ht =>
    obtain ⟨hframe, hdistinct⟩ := frames_of_surroundings h hd hm
    have htop : Scope.Distinct [declaredIn [] m.statements] := fun f hf => by rwa [List.mem_singleton.1 hf]
    refine ⟨⟨[], Surroundings.typedefOf_eq_ok_iff.2 (.inr ⟨hne, ?_, label, hname, ?_⟩)⟩,
      fun f hf => htop f (ht.suffix.subset hf)⟩
    · rw [hframe]
      exact ht.lookUp htop
    · rw [namespaces_of_surroundings h]
      exact hlabel

/-- where no list declares a name twice, references denote by static scope what they denote by look-up -/
theorem denotes_iff (h : d.surroundings = .ok env) (hd : d.Apart) {ref : TypeRef} {uri : String} {owner : List String}
    {scope : Scope} (hs : scope.Distinct) {t : TypeDef} :
    Denotes d.Binds ref uri owner scope t ↔ Denotes env.Binds ref uri owner scope t :=
  ⟨fun ht => ht.imp (fun _ _ _ _ hgood hx => Binds.lookUp h hd hgood hx) hs,
    Denotes.mono fun _ _ _ _ hx => binds_of_lookUp h hx⟩

theorem has_iff (h : d.surroundings = .ok env) (hd : d.Apart) {x : Declaration} (hs : x.scope.Distinct) {t : TypeDef} :
    x.Has d.Binds t ↔ x.Has env.Binds t :=
  exists_congr fun _ => and_congr_left fun _ => denotes_iff h hd hs

theorem leads_of_lookUp (h : d.surroundings = .ok env) : Leads env.Binds ≤ Leads d.Binds :=
  fun _ _ hy => ⟨hy.1, binds_of_lookUp h hy.2⟩

/-- where no list declares a name twice, typedefs lead by look-up where they lead by static scope -/
theorem leads_iff (h : d.surroundings = .ok env) (hd : d.Apart) {x y : Declaration} (hs : x.scope.Distinct) :
    TransGen (Leads d.Binds) x y ↔ TransGen (Leads env.Binds) x y := by
  refine ⟨fun hxy => ?_, TransGen.mono (leads_of_lookUp h) x y⟩
  suffices hboth : TransGen (Leads env.Binds) x y ∧ y.scope.Distinct from hboth.1
  induction hxy with
  | single hy =>
    obtain ⟨hbinds, hdistinct⟩ := Binds.lookUp h hd hs hy.2
    exact ⟨.single ⟨hy.1, hbinds⟩, hdistinct⟩
  | tail _ hz ih =>
    obtain ⟨hbinds, hdistinct⟩ := Binds.lookUp h hd ih.2 hz.2
    exact ⟨ih.1.tail ⟨hz.1, hbinds⟩, hdistinct⟩

end Document

/-! ## Uses -/

/-- a leaf, leaf-list or typedef: its name, what it declares, where it stands, and the typedefs of the lists around it -/
structure Use where
  name : String
  description : Option String
  construct : Construct
  path : List String
  uri : String
  scope : Scope

/-- a use as a typedef -/
def Use.declaration? (u : Use) : Option Declaration :=
  match u.construct with
  | .typedef type => some ⟨⟨u.name, type, u.description, u.path⟩, u.uri, u.scope⟩
  | _ => none

/-- the path below which a statement of a choice stands: any but a case stands in an implicit case of its name -/
def Statement.pathInChoice (choice : List String) : Statement → List String
  | .named _ _ .case _ => choice
  | .named name .. => choice ++ [name]
  | .other .. => choice

mutual

/-- the uses in a statement below `parent` -/
def Statement.uses (uri : String) (parent : List String) (scope : Scope) : Statement → List Use
  | .other .. => []
  | .named name description construct children =>
    match construct with
    | .choice => usesInChoice uri (parent ++ [name]) scope children
    | .container | .list _ | .case =>
      usesIn uri (parent ++ [name]) (declaredIn (parent ++ [name]) children :: scope) children
    | .leaf _ | .leafList _ | .typedef _ => [⟨name, description, construct, parent ++ [name], uri, scope⟩]
    | .identity _ => []

/-- the uses in a statement list -/
def usesIn (uri : String) (parent : List String) (scope : Scope) : List Statement → List Use
  | [] => []
  | s :: ss => s.uses uri parent scope ++ usesIn uri parent scope ss

/-- the uses in a choice -/
def usesInChoice (uri : String) (choice : List String) (scope : Scope) : List Statement → List Use
  | [] => []
  | s :: ss => s.uses uri (s.pathInChoice choice) scope ++ usesInChoice uri choice scope ss

end

/-- the uses in a module -/
def ModuleDecl.uses (m : ModuleDecl) : List Use :=
  usesIn m.namespaceUri [] [declaredIn [] m.statements] m.statements

namespace Document

/-- the leaves, leaf-lists and typedefs of a document, in its order -/
def uses (d : Document) : List Use :=
  d.modules.flatMap ModuleDecl.uses

/-- the typedefs of a document -/
def typedefs (d : Document) : List Declaration :=
  d.uses.filterMap Use.declaration?

end Document

theorem typedef_mem_uses {uri : String} {parent : List String} {scope : Scope} {s : Statement} {t : TypedefDecl}
    (h : s.typedef? parent = some t) : ⟨t, uri, scope⟩ ∈ (s.uses uri parent scope).filterMap Use.declaration? := by
  unfold Statement.typedef? at h
  split at h
  · cases h
    simp [Statement.uses, Use.declaration?]
  · cases h

/-- the typedefs that a list declares are uses in it -/
theorem declared_mem_uses {uri : String} {parent : List String} {scope : Scope} {ss : List Statement} {t : TypedefDecl}
    (h : t ∈ declaredIn parent ss) : ⟨t, uri, scope⟩ ∈ (usesIn uri parent scope ss).filterMap Use.declaration? := by
  induction ss with
  | nil => cases h
  | cons s ss ih =>
    rw [declaredIn_cons, List.mem_append] at h
    rw [usesIn, List.filterMap_append, List.mem_append]
    rcases h with h | h
    · exact .inl (typedef_mem_uses (by simpa using h))
    · exact .inr (ih h)

/-- the typedefs around some uses are those around the statement or among the uses -/
def Enclosed (uri : String) (scope : Scope) (us : List Use) : Prop :=
  ∀ u ∈ us, u.uri = uri ∧ ∀ x ∈ declarations uri u.scope, x ∈ declarations uri scope ∨ x ∈ us.filterMap Use.declaration?

theorem Enclosed.append {uri : String} {scope : Scope} {us vs : List Use} (hu : Enclosed uri scope us)
    (hv : Enclosed uri scope vs) : Enclosed uri scope (us ++ vs) := by
  have left : ∀ x ∈ us.filterMap Use.declaration?, x ∈ (us ++ vs).filterMap Use.declaration? := by
    intro x hx
    rw [List.filterMap_append]
    exact List.mem_append_left _ hx
  have right : ∀ x ∈ vs.filterMap Use.declaration?, x ∈ (us ++ vs).filterMap Use.declaration? := by
    intro x hx
    rw [List.filterMap_append]
    exact List.mem_append_right _ hx
  intro u hmem
  rcases List.mem_append.1 hmem with hmem | hmem
  · obtain ⟨huri, hx⟩ := hu u hmem
    exact ⟨huri, fun x h => (hx x h).imp_right (left x)⟩
  · obtain ⟨huri, hx⟩ := hv u hmem
    exact ⟨huri, fun x h => (hx x h).imp_right (right x)⟩

mutual

theorem enclosed_uses (uri : String) : ∀ (s : Statement) (parent : List String) (scope : Scope),
    Enclosed uri scope (s.uses uri parent scope)
  | .other keyword argument, parent, scope => fun u hu => by simp [Statement.uses] at hu
  | .named name description construct children, parent, scope => by
    unfold Statement.uses
    cases construct with
    | choice => exact enclosed_usesInChoice uri children (parent ++ [name]) scope
    | container | list key | case =>
      intro u hu
      obtain ⟨huri, hx⟩ := enclosed_usesIn uri children (parent ++ [name]) (_ :: scope) u hu
      refine ⟨huri, fun x h => ?_⟩
      rcases hx x h with h | h
      · rw [declarations, List.mem_append, List.mem_map] at h
        rcases h with ⟨t, ht, rfl⟩ | h
        · exact .inr (declared_mem_uses ht)
        · exact .inl h
      · exact .inr h
    | leaf type | leafList type | typedef type =>
      intro u hu
      obtain rfl := List.mem_singleton.1 hu
      exact ⟨rfl, fun x h => .inl h⟩
    | identity bases => exact fun u hu => by simp at hu

theorem enclosed_usesIn (uri : String) : ∀ (ss : List Statement) (parent : List String) (scope : Scope),
    Enclosed uri scope (usesIn uri parent scope ss)
  | [], parent, scope => fun u hu => by simp [usesIn] at hu
  | s :: ss, parent, scope => by
    rw [usesIn]
    exact (enclosed_uses uri s parent scope).append (enclosed_usesIn uri ss parent scope)

theorem enclosed_usesInChoice (uri : String) : ∀ (ss : List Statement) (choice : List String) (scope : Scope),
    Enclosed uri scope (usesInChoice uri choice scope ss)
  | [], choice, scope => fun u hu => by simp [usesInChoice] at hu
  | s :: ss, choice, scope => by
    rw [usesInChoice]
    exact (enclosed_uses uri s _ scope).append (enclosed_usesInChoice uri ss choice scope)

end

namespace Document

variable {d : Document}

/-- the typedefs around a place of a document are typedefs of the document -/
def Covers (d : Document) (uri : String) (scope : Scope) : Prop :=
  declarations uri scope ⊆ d.typedefs

theorem uses_subset {m : ModuleDecl} (hm : m ∈ d.modules) : m.uses.filterMap Use.declaration? ⊆ d.typedefs := by
  intro x hx
  obtain ⟨u, hu, hx⟩ := List.mem_filterMap.1 hx
  exact List.mem_filterMap.2 ⟨u, List.mem_flatMap.2 ⟨m, hm, hu⟩, hx⟩

theorem covers_top {m : ModuleDecl} (hm : m ∈ d.modules) : d.Covers m.namespaceUri [declaredIn [] m.statements] := by
  intro x hx
  rw [declarations, declarations, List.append_nil, List.mem_map] at hx
  obtain ⟨t, ht, rfl⟩ := hx
  exact uses_subset hm (declared_mem_uses ht)

theorem covers_use {u : Use} (hu : u ∈ d.uses) : d.Covers u.uri u.scope := by
  obtain ⟨m, hm, hu⟩ := List.mem_flatMap.1 hu
  obtain ⟨huri, hx⟩ := enclosed_usesIn m.namespaceUri m.statements [] [declaredIn [] m.statements] u hu
  intro x h
  rcases hx x (huri ▸ h) with h | h
  · exact covers_top hm h
  · exact uses_subset hm h

theorem covers_typedef {x : Declaration} (hx : x ∈ d.typedefs) : d.Covers x.uri x.scope := by
  obtain ⟨u, hu, hdecl⟩ := List.mem_filterMap.1 hx
  unfold Use.declaration? at hdecl
  split at hdecl
  · cases hdecl
    exact covers_use hu
  · cases hdecl

/-- **A name in a document denotes a typedef of the document.** -/
theorem Binds.mem_typedefs {name uri : String} {scope : Scope} {x : Declaration} (hs : d.Covers uri scope)
    (h : d.Binds name uri scope x) : x ∈ d.typedefs := by
  have found : ∀ {uri name : String} {scope s : Scope} {t : TypedefDecl}, Innermost name scope t s →
      d.Covers uri scope → ⟨t, uri, s⟩ ∈ d.typedefs := by
    intro uri name scope s t ht hs
    obtain ⟨f, fs, rfl, hmem⟩ := ht.mem
    exact hs (mem_declarations.2 ⟨rfl, f, fs, rfl, ht.suffix, hmem⟩)
  cases h with
  | own _ ht => exact found ht hs
  | foreign _ hm _ _ ht => exact found ht (covers_top hm)

theorem mem_typedefs_of_leads {x y : Declaration} (hx : x ∈ d.typedefs) (h : Leads d.Binds x y) : y ∈ d.typedefs :=
  Binds.mem_typedefs (covers_typedef hx) h.2

end Document

end YangDesign.Schema
