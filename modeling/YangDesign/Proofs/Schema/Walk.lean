/-
What a property of the references in a document makes true of the nodes it resolves to.

Every type in a tree is made by references: that of a leaf or leaf-list, those of the typedefs that it leads to, or that of a
typedef that stands in a list around it (`Surroundings.Makes`). The walk passes a property of all references of a document
to each of these (`madeOf_resolveStatement`), and so `Document.madeOf_resolve` says of every node that its keys are leaves
below it and that its type is made by references of the document.
-/
import YangDesign.Proofs.Schema.StaticScope

namespace YangDesign.Schema

/-! ## References with a property -/

/-- the type that a statement asks for -/
def Statement.typeRef? : Statement → Option TypeRef
  | .named _ _ construct _ => construct.typeRef?
  | .other .. => none

/-- the references of a document, in its order -/
def Document.typeRefs (d : Document) : List TypeRef :=
  d.modules.flatMap fun m => (Statement.allIn m.statements).filterMap Statement.typeRef?

/-- the references of the typedefs in scope have a property -/
def Scope.RefsOf (P : TypeRef → Prop) (scope : Scope) : Prop :=
  ∀ f ∈ scope, ∀ d ∈ f, P d.type

/-- the references of the typedefs that modules offer have a property -/
def Surroundings.RefsOf (P : TypeRef → Prop) (env : Surroundings) : Prop :=
  ∀ uri f, env.frames.find? uri = some f → ∀ d ∈ f, P d.type

/-- the references of all statements have a property -/
def RefsIn (P : TypeRef → Prop) (ss : List Statement) : Prop :=
  ∀ s ∈ Statement.allIn ss, ∀ r, s.typeRef? = some r → P r

/-- the types that references with a property make, by look-up -/
inductive Surroundings.Makes (env : Surroundings) (P : TypeRef → Prop) : TypeDef → Prop where
  | use {ref : TypeRef} {uri : String} {owner : List String} {scope : Scope} {t : TypeDef} : P ref → scope.RefsOf P →
    Denotes env.Binds ref uri owner scope t → Makes env P t
  | typedef {x : Declaration} {inner : TypeDef} : P x.typedef.type → x.scope.RefsOf P →
    Denotes env.Binds x.typedef.type x.uri x.typedef.path x.scope inner → Makes env P (x.over inner)

/-- the keys of a node are leaves below it, and its type is made by references with a property -/
structure Node.MadeOf (env : Surroundings) (P : TypeRef → Prop) (n : Node) : Prop where
  keys : ∀ keys, n.kind = .list keys → ∀ key ∈ keys, key ∈ leafNames n.children
  types : ∀ t, n.kind.type? = some t → env.Makes P t

theorem Document.refsIn_typeRefs {d : Document} {m : ModuleDecl} (hm : m ∈ d.modules) :
    RefsIn (· ∈ d.typeRefs) m.statements :=
  fun s hs _ hr => List.mem_flatMap.2 ⟨m, hm, List.mem_filterMap.2 ⟨s, hs, hr⟩⟩

/-! ## The walk -/

section Walk

variable {P : TypeRef → Prop} {env : Surroundings} {uri : String}

/-- a node of a kind without keys and types asks for nothing -/
theorem Node.madeOf_of_plain {n : Node} (hkeys : ∀ keys, n.kind ≠ .list keys) (htype : n.kind.type? = none) :
    n.MadeOf env P where
  keys := fun keys h => absurd h (hkeys keys)
  types := fun t h => by
    rw [htype] at h
    cases h

theorem refsOf_declaredIn {ss : List Statement} (h : RefsIn P ss) (path : List String) :
    ∀ d ∈ declaredIn path ss, P d.type := by
  intro d hd
  obtain ⟨name, description, type, children, hmem, rfl⟩ := mem_declaredIn.1 hd
  exact h _ (Statement.subset_allIn hmem) type rfl

theorem madeOf_resolveConstruct (head : Head) {path : List String} {scope : Scope} {name : String} {children : List Node}
    {construct : Construct} {kind : NodeKind} (hscope : scope.RefsOf P) (href : ∀ r, construct.typeRef? = some r → P r)
    (h : resolveConstruct env (afresh env) uri path scope name children construct = .ok kind) :
    Node.MadeOf env P ⟨head, kind, children⟩ := by
  unfold resolveConstruct at h
  cases construct with
  | container | choice | case =>
    cases h
    exact Node.madeOf_of_plain (fun keys h => by cases h) rfl
  | list key =>
    obtain ⟨⟨⟩, hkeys, h⟩ := ok_of_bind h
    cases h
    refine ⟨fun keys hk k hkey => ?_, fun t ht => by cases ht⟩
    cases hk
    exact checkKeys_eq_ok_iff.1 hkeys k hkey
  | leaf type | leafList type =>
    obtain ⟨t, ht, h⟩ := ok_of_bind h
    cases h
    refine ⟨fun keys hk => (by cases hk), fun u hu => ?_⟩
    cases hu
    exact .use (href type rfl) hscope (typeOfRef_afresh_eq_ok_iff.1 ht)
  | typedef type =>
    dsimp only at h
    split at h
    · rename_i x hx
      obtain ⟨t, ht, h⟩ := ok_of_bind h
      cases h
      have hhoused : Declaration.Housed ⟨x, uri, scope⟩ := Frame.housed_of_find? hx
      obtain ⟨inner, hinner, rfl⟩ := (afresh_eq_ok_iff hhoused).1 ht
      obtain ⟨-, f, fs, -, hsuffix, hmem⟩ := mem_declarations.1 (mem_declarations_of_housed hhoused)
      refine ⟨fun keys hk => (by cases hk), fun u hu => ?_⟩
      cases hu
      exact .typedef (hscope f (hsuffix.subset List.mem_cons_self) x hmem) hscope hinner
    · cases h
  | identity bases =>
    obtain ⟨qs, -, h⟩ := ok_of_bind h
    cases h
    exact Node.madeOf_of_plain (fun keys h => by cases h) rfl

theorem madeOf_all {n : Node} (hn : n.MadeOf env P) (hc : ∀ x ∈ Node.allIn n.children, x.MadeOf env P) :
    ∀ x ∈ n.all, x.MadeOf env P := by
  rw [Node.all_eq]
  exact List.forall_mem_cons.2 ⟨hn, hc⟩

theorem madeOf_inChoice {s : Statement} {choice : List String} {n : Node} (h : ∀ x ∈ n.all, x.MadeOf env P) :
    ∀ x ∈ Node.allIn (s.inChoice uri choice n), x.MadeOf env P := by
  have halone : ∀ x ∈ Node.allIn [n], x.MadeOf env P := by simpa [Node.allIn] using h
  cases s with
  | other keyword argument => exact fun x hx => by cases hx
  | named name description construct children =>
    cases construct with
    | case => exact halone
    | container | list _ | leaf _ | leafList _ | choice | typedef _ | identity _ =>
      have hcase := madeOf_all (n := ⟨⟨⟨uri, name⟩, choice ++ [name], none⟩, .case, [n]⟩)
        (Node.madeOf_of_plain (fun keys h => by cases h) rfl) halone
      simpa [Statement.inChoice, Node.allIn] using hcase

mutual

theorem madeOf_resolveStatement : ∀ (s : Statement) {parent : List String} {scope : Scope} {n : Node},
    (∀ x ∈ s.all, ∀ r, x.typeRef? = some r → P r) → scope.RefsOf P →
    resolveStatement env (afresh env) uri parent scope s = .ok n → ∀ x ∈ n.all, x.MadeOf env P
  | .other keyword argument, parent, scope, n, _, _, h => by
    unfold resolveStatement at h
    cases h
    exact madeOf_all (Node.madeOf_of_plain (fun keys h => by cases h) rfl) fun x hx => by cases hx
  | .named name description construct children, parent, scope, n, hs, hscope, h => by
    have hbelow : RefsIn P children := fun x hx => hs x (Statement.mem_all_of_below hx)
    rw [resolveStatement_named] at h
    obtain ⟨nodes, hnodes, h⟩ := ok_of_bind h
    obtain ⟨kind, hkind, h⟩ := ok_of_bind h
    cases h
    have hn := madeOf_resolveConstruct ⟨⟨uri, name⟩, parent ++ [name], description⟩ hscope
      (hs _ (Statement.mem_all_self _)) hkind
    refine madeOf_all hn ?_
    cases construct with
    | choice => exact madeOf_resolveCases children hbelow hscope hnodes
    | container | list _ | case =>
      obtain ⟨frame, hframe, hnodes⟩ := ok_of_bind hnodes
      obtain ⟨rfl, -⟩ := openFrame_eq_ok_iff.1 hframe
      exact madeOf_resolveStatements children hbelow
        (List.forall_mem_cons.2 ⟨refsOf_declaredIn hbelow _, hscope⟩) hnodes
    | leaf _ | leafList _ | typedef _ | identity _ =>
      cases hnodes
      exact fun x hx => by cases hx

theorem madeOf_resolveStatements : ∀ (ss : List Statement) {parent : List String} {scope : Scope} {ns : List Node},
    RefsIn P ss → scope.RefsOf P →
    resolveStatements env (afresh env) uri parent scope ss = .ok ns → ∀ x ∈ Node.allIn ns, x.MadeOf env P
  | [], parent, scope, ns, _, _, h => by
    unfold resolveStatements at h
    cases h
    exact fun x hx => by cases hx
  | s :: ss, parent, scope, ns, hss, hscope, h => by
    rw [RefsIn, Statement.allIn, List.forall_mem_append] at hss
    rw [resolveStatements] at h
    obtain ⟨n, hn, h⟩ := ok_of_bind h
    obtain ⟨ns', hns, h⟩ := ok_of_bind h
    cases h
    rw [Node.allIn, List.forall_mem_append]
    exact ⟨madeOf_resolveStatement s hss.1 hscope hn, madeOf_resolveStatements ss hss.2 hscope hns⟩

theorem madeOf_resolveCases : ∀ (ss : List Statement) {choice : List String} {scope : Scope} {ns : List Node},
    RefsIn P ss → scope.RefsOf P →
    resolveCases env (afresh env) uri choice scope ss = .ok ns → ∀ x ∈ Node.allIn ns, x.MadeOf env P
  | [], choice, scope, ns, _, _, h => by
    simp only [resolveCases] at h
    cases h
    exact fun x hx => by cases hx
  | s :: ss, choice, scope, ns, hss, hscope, h => by
    rw [RefsIn, Statement.allIn, List.forall_mem_append] at hss
    rw [resolveCases_cons] at h
    obtain ⟨n, hn, h⟩ := ok_of_bind h
    obtain ⟨ns', hns, h⟩ := ok_of_bind h
    cases h
    rw [Node.allIn_append, List.forall_mem_append]
    exact ⟨madeOf_inChoice (madeOf_resolveStatement s hss.1 hscope hn), madeOf_resolveCases ss hss.2 hscope hns⟩

end

end Walk

/-- **Nodes are made by the references of the document.** -/
theorem Document.madeOf_resolve {P : TypeRef → Prop} {d : Document} (hd : ∀ m ∈ d.modules, RefsIn P m.statements) {t : Tree}
    (h : d.resolve = .ok t) : ∃ env, d.surroundings = .ok env ∧ env.RefsOf P ∧ ∀ n ∈ t.nodes, n.MadeOf env P := by
  rw [Document.resolve_eq] at h
  obtain ⟨env, henv, h⟩ := ok_of_bind h
  obtain ⟨ms, hms, h⟩ := ok_of_bind h
  cases h
  have hframes : env.RefsOf P := by
    intro uri f hf
    obtain ⟨m, hm, -, rfl⟩ := mem_modules_of_frame henv hf
    exact refsOf_declaredIn (hd m hm) []
  refine ⟨env, henv, hframes, fun n hn => ?_⟩
  obtain ⟨m', hm', hn⟩ := Tree.mem_nodes.1 hn
  obtain ⟨m, hm, hmm⟩ := forall₂_mem_left (ok_of_mapM hms).flip hm'
  obtain ⟨nodes, hnodes, hmm⟩ := ok_of_bind hmm
  cases hmm
  refine madeOf_resolveStatements m.statements (hd m hm) (fun f hf d hd => ?_) hnodes n hn
  obtain rfl := List.mem_singleton.1 hf
  cases hfind : env.frames.find? m.namespaceUri with
  | none =>
    rw [hfind] at hd
    cases hd
  | some f =>
    rw [hfind] at hd
    exact hframes _ f hfind d hd

end YangDesign.Schema
