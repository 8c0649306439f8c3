/-
The statements at the top of a module in another order.

In scopes that are alike a statement resolves to one and the same node (`resolveStatement_alike`), so the nodes of a module
stand in the order of its statements and nothing else about them changes (`Document.resolve_shuffled`). Where a document has
one module, all its types are in the namespace of that module (`Document.namespace_of_types`).
-/
import YangDesign.Proofs.Schema.Reordering

namespace YangDesign.Schema

/-- a module with its nodes at the top in another order -/
structure Module.Shuffled (m m' : Module) : Prop where
  name : m'.name = m.name
  namespaceUri : m'.namespaceUri = m.namespaceUri
  modulePrefix : m'.modulePrefix = m.modulePrefix
  description : m'.description = m.description
  statements : m'.statements.Perm m.statements

/-- a tree of one module, and the same with the nodes at the top of it in another order -/
def Tree.Shuffled (t t' : Tree) : Prop :=
  ∃ m m', t.modules = [m] ∧ t'.modules = [m'] ∧ m.Shuffled m'

mutual

theorem Node.Reordered.refl : ∀ n : Node, n.Reordered n
  | ⟨_, _, children⟩ => ⟨children, rfl, Node.ReorderedIn.refl children⟩

theorem Node.ReorderedIn.refl : ∀ ns : List Node, Node.ReorderedIn ns ns
  | [] => rfl
  | n :: ns => ⟨n, ns, List.Perm.refl _, Node.Reordered.refl n, Node.ReorderedIn.refl ns⟩

end

/-! ## Alike scopes -/

section Alike

variable {env env' : Surroundings} {uri : String}

mutual

/-- **A statement resolves to the same node in alike scopes.** -/
theorem resolveStatement_alike (henv : env.Alike env') : ∀ (s : Statement) {parent : List String} {scope scope' : Scope}
    {n : Node}, Scope.Alike scope scope' → resolveStatement env (afresh env) uri parent scope s = .ok n →
    resolveStatement env' (afresh env') uri parent scope' s = .ok n
  | .other keyword argument, parent, scope, scope', n, _, h => by
    unfold resolveStatement at h ⊢
    exact h
  | .named name description construct children, parent, scope, scope', n, hs, h => by
    rw [resolveStatement_named] at h ⊢
    obtain ⟨nodes, hnodes, h⟩ := ok_of_bind h
    obtain ⟨kind, hkind, h⟩ := ok_of_bind h
    have hbelow : resolveBelow env' (afresh env') uri (parent ++ [name]) scope' children construct = .ok nodes := by
      cases construct with
      | choice => exact resolveCases_alike henv children hs hnodes
      | container | list _ | case =>
        obtain ⟨frame, hframe, hnodes⟩ := ok_of_bind hnodes
        have hopened := openFrame_eq_ok_iff.1 hframe
        have hsame : Frame.Alike frame frame := ⟨List.Perm.refl _, hopened.1 ▸ hopened.2⟩
        exact bind_eq_ok_iff.2 ⟨frame, hframe, resolveStatements_alike henv children (.cons hsame hs) hnodes⟩
      | leaf _ | leafList _ | typedef _ | identity _ => exact hnodes
    have hconstruct := resolveConstruct_alike henv hs (Node.ReorderedIn.refl nodes) hkind
    exact bind_eq_ok_iff.2 ⟨nodes, hbelow, bind_eq_ok_iff.2 ⟨kind, hconstruct, h⟩⟩

theorem resolveStatements_alike (henv : env.Alike env') : ∀ (ss : List Statement) {parent : List String}
    {scope scope' : Scope} {ns : List Node}, Scope.Alike scope scope' →
    resolveStatements env (afresh env) uri parent scope ss = .ok ns →
    resolveStatements env' (afresh env') uri parent scope' ss = .ok ns
  | [], parent, scope, scope', ns, _, h => by
    unfold resolveStatements at h ⊢
    exact h
  | s :: ss, parent, scope, scope', ns, hs, h => by
    rw [resolveStatements] at h ⊢
    obtain ⟨n, hn, h⟩ := ok_of_bind h
    obtain ⟨ns', hns, h⟩ := ok_of_bind h
    exact bind_eq_ok_iff.2 ⟨n, resolveStatement_alike henv s hs hn,
      bind_eq_ok_iff.2 ⟨ns', resolveStatements_alike henv ss hs hns, h⟩⟩

theorem resolveCases_alike (henv : env.Alike env') : ∀ (ss : List Statement) {choice : List String}
    {scope scope' : Scope} {ns : List Node}, Scope.Alike scope scope' →
    resolveCases env (afresh env) uri choice scope ss = .ok ns →
    resolveCases env' (afresh env') uri choice scope' ss = .ok ns
  | [], choice, scope, scope', ns, _, h => by
    simp only [resolveCases] at h ⊢
    exact h
  | s :: ss, choice, scope, scope', ns, hs, h => by
    rw [resolveCases_cons] at h ⊢
    obtain ⟨n, hn, h⟩ := ok_of_bind h
    obtain ⟨ns', hns, h⟩ := ok_of_bind h
    exact bind_eq_ok_iff.2 ⟨n, resolveStatement_alike henv s hs hn,
      bind_eq_ok_iff.2 ⟨ns', resolveCases_alike henv ss hs hns, h⟩⟩

end

end Alike

/-! ## Types of nodes -/

/-- the types that nodes of a namespace can have: those that references denote, and those of typedefs -/
inductive Surroundings.Types (env : Surroundings) (uri : String) : TypeDef → Prop where
  | reference {ref : TypeRef} {owner : List String} {scope : Scope} {t : TypeDef} :
    Denotes env.Binds ref uri owner scope t → Types env uri t
  | typedef {x : Declaration} {t : TypeDef} : x.uri = uri → x.Has env.Binds t → Types env uri t

/-- a node and the nodes below it have types that a predicate holds of -/
def Node.TypesIn (P : TypeDef → Prop) (n : Node) : Prop :=
  ∀ x ∈ n.all, ∀ t, x.kind.type? = some t → P t

section Types

variable {env : Surroundings} {uri : String} {P : TypeDef → Prop}

theorem Node.typesIn_mk {head : Head} {kind : NodeKind} {children : List Node} (hkind : ∀ t, kind.type? = some t → P t)
    (hc : ∀ c ∈ children, c.TypesIn P) : Node.TypesIn P ⟨head, kind, children⟩ := by
  intro x hx
  rw [Node.all_eq, List.mem_cons, Node.mem_allIn] at hx
  rcases hx with rfl | ⟨c, hcm, hx⟩
  · exact hkind
  · exact hc c hcm x hx

theorem types_of_resolveConstruct {path : List String} {scope : Scope} {name : String} {children : List Node}
    {construct : Construct} {kind : NodeKind}
    (h : resolveConstruct env (afresh env) uri path scope name children construct = .ok kind) {t : TypeDef}
    (ht : kind.type? = some t) : env.Types uri t := by
  unfold resolveConstruct at h
  cases construct with
  | container | choice | case =>
    cases h
    cases ht
  | list key =>
    obtain ⟨-, -, h⟩ := ok_of_bind h
    cases h
    cases ht
  | leaf type | leafList type =>
    obtain ⟨u, hu, h⟩ := ok_of_bind h
    cases h
    cases ht
    exact .reference (typeOfRef_afresh_eq_ok_iff.1 hu)
  | typedef type =>
    dsimp only at h
    split at h
    · rename_i d hd
      obtain ⟨u, hu, h⟩ := ok_of_bind h
      cases h
      cases ht
      exact .typedef rfl ((afresh_eq_ok_iff (Frame.housed_of_find? hd)).1 hu)
    · cases h
  | identity bases =>
    obtain ⟨qs, -, h⟩ := ok_of_bind h
    cases h
    cases ht

theorem Node.typesIn_inChoice {s : Statement} {choice : List String} {n : Node} (h : n.TypesIn P) :
    ∀ m ∈ s.inChoice uri choice n, m.TypesIn P := by
  intro m hm
  cases s with
  | other keyword argument => cases hm
  | named name description construct children =>
    cases construct with
    | case =>
      obtain rfl := List.mem_singleton.1 hm
      exact h
    | container | list _ | leaf _ | leafList _ | choice | typedef _ | identity _ =>
      obtain rfl := List.mem_singleton.1 hm
      refine Node.typesIn_mk (fun t ht => by cases ht) fun c hc => ?_
      obtain rfl := List.mem_singleton.1 hc
      exact h

mutual

theorem typesIn_of_resolveStatement : ∀ (s : Statement) {parent : List String} {scope : Scope} {n : Node},
    resolveStatement env (afresh env) uri parent scope s = .ok n → n.TypesIn (env.Types uri)
  | .other keyword argument, parent, scope, n, h => by
    unfold resolveStatement at h
    cases h
    exact Node.typesIn_mk (fun t ht => by cases ht) fun c hc => by cases hc
  | .named name description construct children, parent, scope, n, h => by
    rw [resolveStatement_named] at h
    obtain ⟨nodes, hnodes, h⟩ := ok_of_bind h
    obtain ⟨kind, hkind, h⟩ := ok_of_bind h
    cases h
    refine Node.typesIn_mk (fun t ht => types_of_resolveConstruct hkind ht) ?_
    cases construct with
    | choice => exact typesIn_of_resolveCases children hnodes
    | container | list _ | case =>
      obtain ⟨frame, -, hnodes⟩ := ok_of_bind hnodes
      exact typesIn_of_resolveStatements children hnodes
    | leaf _ | leafList _ | typedef _ | identity _ =>
      cases hnodes
      exact fun c hc => by cases hc

theorem typesIn_of_resolveStatements : ∀ (ss : List Statement) {parent : List String} {scope : Scope} {ns : List Node},
    resolveStatements env (afresh env) uri parent scope ss = .ok ns → ∀ n ∈ ns, n.TypesIn (env.Types uri)
  | [], parent, scope, ns, h => by
    unfold resolveStatements at h
    cases h
    exact fun n hn => by cases hn
  | s :: ss, parent, scope, ns, h => by
    rw [resolveStatements] at h
    obtain ⟨n, hn, h⟩ := ok_of_bind h
    obtain ⟨ns', hns, h⟩ := ok_of_bind h
    cases h
    exact List.forall_mem_cons.2 ⟨typesIn_of_resolveStatement s hn, typesIn_of_resolveStatements ss hns⟩

theorem typesIn_of_resolveCases : ∀ (ss : List Statement) {choice : List String} {scope : Scope} {ns : List Node},
    resolveCases env (afresh env) uri choice scope ss = .ok ns → ∀ n ∈ ns, n.TypesIn (env.Types uri)
  | [], choice, scope, ns, h => by
    simp only [resolveCases] at h
    cases h
    exact fun n hn => by cases hn
  | s :: ss, choice, scope, ns, h => by
    rw [resolveCases_cons] at h
    obtain ⟨n, hn, h⟩ := ok_of_bind h
    obtain ⟨ns', hns, h⟩ := ok_of_bind h
    cases h
    exact List.forall_mem_append.2 ⟨Node.typesIn_inChoice (typesIn_of_resolveStatement s hn),
      typesIn_of_resolveCases ss hns⟩

end

/-- if modules offer typedefs in one namespace only, a reference there denotes a type whose bases are all in it -/
theorem namespace_of_denotes {home : String} (henv : ∀ uri' f, env.frames.find? uri' = some f → uri' = home)
    {ref : TypeRef} {owner : List String} {scope : Scope} {t : TypeDef} (h : Denotes env.Binds ref uri owner scope t)
    (huri : uri = home) : ∀ u ∈ t.chain, u.name.namespaceUri = home := by
  induction h with
  | builtIn =>
    intro u hu
    rw [TypeDef.chain_of_none rfl, List.mem_singleton] at hu
    rw [hu]
    exact huri
  | @typedef ref uri owner scope x inner enums _ hx _ _ _ ih =>
    have hxuri : x.uri = home := by
      obtain ⟨path, hx⟩ := hx
      rcases Surroundings.typedefOf_eq_ok_iff.1 hx with ⟨heq, -, -⟩ | ⟨-, hfound, -⟩
      · exact heq.trans huri
      · cases hfind : env.frames.find? x.uri with
        | some f => exact henv x.uri f hfind
        | none =>
          rw [hfind] at hfound
          cases hfound
    have hover : ∀ u ∈ (x.over inner).chain, u.name.namespaceUri = home := by
      intro u hu
      rw [TypeDef.chain_of_some (b := inner) rfl, List.mem_cons] at hu
      rcases hu with rfl | hu
      · exact hxuri
      · exact ih hxuri u hu
    unfold TypeRef.refine
    split
    · exact hover
    · intro u hu
      rw [TypeDef.chain_of_some (b := x.over inner) rfl, List.mem_cons] at hu
      rcases hu with rfl | hu
      · exact huri
      · exact hover u hu

theorem Surroundings.Types.namespace (henv : ∀ uri' f, env.frames.find? uri' = some f → uri' = uri) {t : TypeDef}
    (h : env.Types uri t) : ∀ u ∈ t.chain, u.name.namespaceUri = uri := by
  cases h with
  | reference hd => exact namespace_of_denotes henv hd rfl
  | @typedef x _ hx hh =>
    obtain ⟨inner, hinner, rfl⟩ := hh
    intro u hu
    rw [TypeDef.chain_of_some (b := inner) rfl, List.mem_cons] at hu
    rcases hu with rfl | hu
    · exact hx
    · exact namespace_of_denotes henv hinner hx u hu

end Types

/-! ## Documents of one module -/

namespace Document

variable {m : ModuleDecl} {t : Tree}

/-- the tree of a document of one module has one module, of its namespace -/
theorem module_of_resolve (h : Document.resolve ⟨[m]⟩ = .ok t) : ∃ env n, surroundings ⟨[m]⟩ = .ok env ∧
    resolveModule env (afresh env) m = .ok n ∧ t.modules = [n] ∧ n.namespaceUri = m.namespaceUri := by
  rw [Document.resolve_eq] at h
  obtain ⟨env, henv, h⟩ := ok_of_bind h
  obtain ⟨ns, hns, h⟩ := ok_of_bind h
  cases h
  cases ok_of_mapM hns with
  | cons hn htail =>
    cases htail
    refine ⟨env, _, henv, hn, rfl, ?_⟩
    obtain ⟨nodes, -, hn⟩ := ok_of_bind hn
    cases hn
    rfl

/-- **Namespaces of types.** In a document of one module all types are in the namespace of the module. -/
theorem namespace_of_types (h : Document.resolve ⟨[m]⟩ = .ok t) : ∀ u ∈ t.types, u.name.namespaceUri = m.namespaceUri := by
  obtain ⟨env, n, henv, hn, hmodules, -⟩ := module_of_resolve h
  obtain ⟨nodes, hnodes, hn⟩ := ok_of_bind hn
  cases hn
  have hframes : ∀ uri' f, env.frames.find? uri' = some f → uri' = m.namespaceUri := by
    intro uri' f hf
    obtain ⟨m', hm', huri, -⟩ := mem_modules_of_frame henv hf
    rw [List.mem_singleton.1 hm'] at huri
    exact huri.symm
  intro u hu
  obtain ⟨x, hx, hux⟩ := List.mem_flatMap.1 hu
  have hxn : x ∈ Node.allIn nodes := by
    rw [Tree.nodes, hmodules, List.flatMap_singleton] at hx
    exact hx
  obtain ⟨s, hs, hxs⟩ := Node.mem_allIn.1 hxn
  unfold Node.types at hux
  split at hux
  · rename_i type htype
    exact (typesIn_of_resolveStatements m.statements hnodes s hs x hxs type htype).namespace hframes u hux
  · cases hux

/-- **A module in another order resolves to its nodes in another order.** -/
theorem resolve_shuffled {ss : List Statement} (hp : ss.Perm m.statements) (h : Document.resolve ⟨[m]⟩ = .ok t) :
    ∃ t', Document.resolve ⟨[{ m with statements := ss }]⟩ = .ok t' ∧ t.Shuffled t' := by
  obtain ⟨env, n, henv, hn, hmodules, -⟩ := module_of_resolve h
  have hmodules : List.Forall₂ ModuleDecl.Reordered [m] [{ m with statements := ss }] :=
    .cons ⟨rfl, rfl, rfl, rfl, .of_perm hp⟩ .nil
  have hreordered : Document.Reordered ⟨[m]⟩ ⟨[{ m with statements := ss }]⟩ := ⟨_, hmodules, List.Perm.refl _⟩
  obtain ⟨env', henv', halike⟩ :=
    hreordered.surroundings (sameLabels_of_forall₂ hmodules) (List.nodup_singleton _) henv
  obtain ⟨nodes, hnodes, hn⟩ := ok_of_bind hn
  cases hn
  have hscope := List.Forall₂.cons (halike.frames m.namespaceUri) .nil
  obtain ⟨nodes', hnodes', hperm⟩ := gathers_resolveStatements.perm hp.symm hnodes
  have hresolved := resolveStatements_alike halike ss hscope hnodes'
  refine ⟨⟨[⟨m.name, m.namespaceUri, m.modulePrefix, nodes', m.description⟩]⟩, ?_, _, _, hmodules, rfl,
    ⟨rfl, rfl, rfl, rfl, hperm⟩⟩
  rw [Document.resolve_eq]
  refine bind_eq_ok_iff.2 ⟨env', henv', bind_eq_ok_iff.2 ⟨_, ?_, rfl⟩⟩
  rw [List.mapM_cons]
  exact bind_eq_ok_iff.2 ⟨_, bind_eq_ok_iff.2 ⟨nodes', hresolved, rfl⟩, rfl⟩

/-- a module resolves if and only if it does in another order -/
theorem resolve_shuffled_iff {ss : List Statement} (hp : ss.Perm m.statements) :
    (∃ t, Document.resolve ⟨[m]⟩ = .ok t) ↔ ∃ t, Document.resolve ⟨[{ m with statements := ss }]⟩ = .ok t := by
  constructor
  · rintro ⟨t, h⟩
    obtain ⟨t', h', -⟩ := resolve_shuffled hp h
    exact ⟨t', h'⟩
  · rintro ⟨t, h⟩
    have hback : m.statements.Perm ({ m with statements := ss } : ModuleDecl).statements := hp.symm
    obtain ⟨t', h', -⟩ := resolve_shuffled hback h
    exact ⟨t', h'⟩

end Document

end YangDesign.Schema
