/-
The tree that a document resolves to.

`Node.Resolved` says what resolution makes true at a node: its children stand below it, in its namespace; only containers,
lists, choices and cases have children, and those of a choice are cases; leaves, leaf-lists and typedefs have a type, and
all types of its chain have one built-in kind. Paths are made of the names in the document, so what holds of these names holds
of the parts of all paths (`Node.PathsOf`).

`Document.resolved` proves both for every node of the tree, and that the bases of its identities are identities of the tree.
-/
import YangDesign.Proofs.Schema.Nodes
import YangDesign.Proofs.Schema.Lexical

namespace YangDesign.Schema

/-! ## What resolution makes true -/

/-- whether nodes of the kind have nodes below them -/
def NodeKind.isInner : NodeKind → Bool
  | .container | .list _ | .choice | .case => true
  | _ => false

/-- whether nodes of the kind are constructs with a name -/
def NodeKind.isNamed : NodeKind → Bool
  | .other .. => false
  | _ => true

/-- the types of a chain have one built-in kind -/
def TypeDef.Rooted (t : TypeDef) : Prop :=
  ∃ b, ∀ u ∈ t.chain, u.kind = .builtIn b

/-- the names of a type and its bases, and the parts of their paths, have a property -/
def TypeDef.PathsOf (P : String → Prop) (t : TypeDef) : Prop :=
  ∀ u ∈ t.chain, P u.name.localName ∧ ∀ part ∈ u.path, P part

/-- a node of a namespace right below a path -/
def Node.StandsAt (uri : String) (parent : List String) (n : Node) : Prop :=
  n.head.name.namespaceUri = uri ∧ n.head.path = parent ++ [n.label]

/-- what resolution makes true at a node of a schema that knows some identities -/
structure Node.Resolved (known : List QName) (n : Node) : Prop where
  below : ∀ c ∈ n.children, c.StandsAt n.head.name.namespaceUri n.head.path
  inner : n.children ≠ [] → n.kind.isInner = true
  cases : n.kind = .choice → ∀ c ∈ n.children, c.kind = .case
  typed : n.kind ≠ .leaf none ∧ n.kind ≠ .leafList none ∧ n.kind ≠ .typedef none
  rooted : ∀ t, n.kind.type? = some t → t.Rooted
  bases : ∀ qs, n.kind = .identity qs → ∀ q ∈ qs, q ∈ known

/-- the parts of the paths of a construct and of its types have a property -/
structure Node.PathsOf (P : String → Prop) (n : Node) : Prop where
  path : n.kind.isNamed = true → ∀ part ∈ n.head.path, P part
  types : ∀ t, n.kind.type? = some t → t.PathsOf P

/-- what resolution makes true of a tree -/
structure Tree.Resolved (t : Tree) : Prop where
  top : ∀ m ∈ t.modules, ∀ n ∈ m.statements, n.StandsAt m.namespaceUri []
  nodes : ∀ n ∈ t.nodes, n.Resolved (t.topIdentities.map (·.head.name))

/-! ## Names of a document -/

/-- the type that a construct asks for -/
def Construct.typeRef? : Construct → Option TypeRef
  | .leaf r | .leafList r | .typedef r => some r
  | _ => none

/-- the name of a construct and the local name of its type have a property -/
def Statement.NamesOf (P : String → Prop) : Statement → Prop
  | .named name _ construct _ => P name ∧ ∀ r, construct.typeRef? = some r → P (Text.splitQualified r.name).2
  | .other .. => True

/-- the names of a typedef, and the parts of its path, have a property -/
structure TypedefDecl.NamesOf (P : String → Prop) (d : TypedefDecl) : Prop where
  name : P d.name
  type : P (Text.splitQualified d.type.name).2
  path : ∀ part ∈ d.path, P part

/-- the names of a scope have a property -/
def Scope.NamesOf (P : String → Prop) (scope : Scope) : Prop :=
  ∀ f ∈ scope, ∀ d ∈ f, d.NamesOf P

/-- the names of all statements have a property -/
def Document.NamesOf (P : String → Prop) (d : Document) : Prop :=
  ∀ m ∈ d.modules, ∀ s ∈ Statement.allIn m.statements, s.NamesOf P

theorem Statement.mem_allIn {x : Statement} {ss : List Statement} : x ∈ allIn ss ↔ ∃ s ∈ ss, x ∈ s.all := by
  induction ss with
  | nil => simp [allIn]
  | cons s ss ih => simp [allIn, ih]

theorem Statement.mem_all_self (s : Statement) : s ∈ s.all := by
  cases s <;> simp [all]

theorem Statement.subset_allIn {s : Statement} {ss : List Statement} (h : s ∈ ss) : s ∈ allIn ss :=
  mem_allIn.2 ⟨s, h, s.mem_all_self⟩

variable {P : String → Prop}

theorem namesOf_of_openFrame {path : List String} {f : Frame} {ss : List Statement} (hpath : ∀ part ∈ path, P part)
    (hs : ∀ s ∈ ss, s.NamesOf P) (h : openFrame path ss = .ok f) : ∀ d ∈ f, d.NamesOf P := by
  obtain ⟨rfl, -⟩ := openFrame_eq_ok_iff.1 h
  intro d hd
  obtain ⟨name, description, type, children, hmem, rfl⟩ := mem_declaredIn.1 hd
  obtain ⟨hname, htype⟩ := hs _ hmem
  refine ⟨hname, htype type rfl, fun part hpart => ?_⟩
  rcases List.mem_append.1 hpart with hpart | hpart
  · exact hpath part hpart
  · rw [List.mem_singleton.1 hpart]
    exact hname

/-! ## Types -/

/-- the frames that modules offer have names with a property -/
def Surroundings.NamesOf (P : String → Prop) (env : Surroundings) : Prop :=
  ∀ uri f, env.frames.find? uri = some f → ∀ d ∈ f, d.NamesOf P

/-- what holds of the typedefs in scope, and of those that modules offer, holds of the one that a name denotes and of those in
its scope -/
theorem forall_of_binds {D : TypedefDecl → Prop} {env : Surroundings} {name uri : String} {scope : Scope} {x : Declaration}
    (henv : ∀ uri f, env.frames.find? uri = some f → ∀ d ∈ f, D d) (hs : ∀ f ∈ scope, ∀ d ∈ f, D d)
    (h : env.Binds name uri scope x) : D x.typedef ∧ ∀ f ∈ x.scope, ∀ d ∈ f, D d := by
  have found : ∀ {scope : Scope}, (∀ f ∈ scope, ∀ d ∈ f, D d) →
      lookUp (Text.splitQualified name).2 scope = some (x.typedef, x.scope) →
      D x.typedef ∧ ∀ f ∈ x.scope, ∀ d ∈ f, D d := by
    intro scope hs hx
    have hx := innermost_of_lookUp hx
    obtain ⟨f, fs, hscope, hmem⟩ := hx.mem
    exact ⟨hs f (hx.suffix.subset (hscope ▸ List.mem_cons_self)) _ hmem, fun g hg => hs g (hx.suffix.subset hg)⟩
  obtain ⟨path, h⟩ := h
  rcases Surroundings.typedefOf_eq_ok_iff.1 h with ⟨-, hx, -⟩ | ⟨-, hx, -⟩
  · exact found hs hx
  · refine found (fun f hf d hd => ?_) hx
    obtain rfl := List.mem_singleton.1 hf
    cases hfind : env.frames.find? x.uri with
    | none =>
      rw [hfind] at hd
      cases hd
    | some f =>
      rw [hfind] at hd
      exact henv _ f hfind d hd

/-- a built-in type has the name that the reference asks for -/
theorem TypeRef.name_of_builtIn? {ref : TypeRef} {b : BuiltIn} (h : ref.builtIn? = some b) :
    b.name = (Text.splitQualified ref.name).2 := by
  unfold TypeRef.builtIn? at h
  split at h
  · rename_i hsplit
    rw [hsplit]
    exact BuiltIn.name_of_ofName? h
  · cases h

/-- what a reference makes of a type is that type, or adds to it under a name of its own -/
theorem TypeRef.refine_cases (ref : TypeRef) (uri : String) (owner : List String) (enums : List EnumValue) (base : TypeDef) :
    ref.refine uri owner enums base = base ∨ ((ref.refine uri owner enums base).base = some base ∧
      (ref.refine uri owner enums base).kind = base.kind ∧
      (ref.refine uri owner enums base).path = owner ++ [(Text.splitQualified ref.name).2] ∧
      (ref.refine uri owner enums base).name.localName = (Text.splitQualified ref.name).2) := by
  unfold TypeRef.refine
  split
  · exact .inl rfl
  · exact .inr ⟨rfl, rfl, rfl, rfl⟩

/-- a type whose base has a built-in kind and which is of that kind itself -/
theorem TypeDef.Rooted.derive {t b : TypeDef} (hb : b.Rooted) (hbase : t.base = some b) (hk : t.kind = b.kind) :
    t.Rooted := by
  obtain ⟨k, h⟩ := hb
  refine ⟨k, fun u hu => ?_⟩
  rw [TypeDef.chain_of_some hbase, List.mem_cons] at hu
  rcases hu with rfl | hu
  · rw [hk]
    exact h b b.self_mem_chain
  · exact h u hu

theorem TypeDef.Rooted.over {inner : TypeDef} (h : inner.Rooted) (x : Declaration) : (x.over inner).Rooted :=
  h.derive rfl rfl

theorem rooted_of_denotes {binds : Binding} {ref : TypeRef} {uri : String} {owner : List String} {scope : Scope}
    {t : TypeDef} (h : Denotes binds ref uri owner scope t) : t.Rooted := by
  induction h with
  | @builtIn ref uri owner scope b =>
    refine ⟨b, fun u hu => ?_⟩
    rw [TypeDef.chain_of_none rfl, List.mem_singleton] at hu
    rw [hu]
  | @typedef ref uri owner scope x inner enums _ _ _ _ _ ih =>
    rcases ref.refine_cases uri owner enums (x.over inner) with heq | ⟨hbase, hkind, -⟩
    · rw [heq]
      exact ih.over x
    · exact (ih.over x).derive hbase hkind

theorem TypeDef.PathsOf.derive {t b : TypeDef} (hb : b.PathsOf P) (hbase : t.base = some b) (hname : P t.name.localName)
    (hpath : ∀ part ∈ t.path, P part) : t.PathsOf P := by
  intro u hu
  rw [TypeDef.chain_of_some hbase, List.mem_cons] at hu
  rcases hu with rfl | hu
  · exact ⟨hname, hpath⟩
  · exact hb u hu

theorem TypeDef.PathsOf.over {inner : TypeDef} (h : inner.PathsOf P) {x : Declaration} (hx : x.typedef.NamesOf P) :
    (x.over inner).PathsOf P :=
  h.derive rfl hx.name hx.path

theorem pathsOf_of_denotes {env : Surroundings} (henv : env.NamesOf P) {ref : TypeRef} {uri : String}
    {owner : List String} {scope : Scope} {t : TypeDef} (hscope : scope.NamesOf P) (howner : ∀ part ∈ owner, P part)
    (href : P (Text.splitQualified ref.name).2) (h : Denotes env.Binds ref uri owner scope t) : t.PathsOf P := by
  induction h with
  | builtIn hb =>
    intro u hu
    rw [TypeDef.chain_of_none rfl, List.mem_singleton] at hu
    rw [hu]
    have hname := TypeRef.name_of_builtIn? hb ▸ href
    exact ⟨hname, List.forall_mem_append.2 ⟨howner, List.forall_mem_singleton.2 hname⟩⟩
  | @typedef ref uri owner scope x inner enums _ hx _ _ _ ih =>
    obtain ⟨hdecl, hscope'⟩ := forall_of_binds henv hscope hx
    have hover := (ih hscope' hdecl.path hdecl.type).over hdecl
    rcases ref.refine_cases uri owner enums (x.over inner) with heq | ⟨hbase, -, hpath, hname⟩
    · rw [heq]
      exact hover
    · have hparts := List.forall_mem_append.2 ⟨howner, List.forall_mem_singleton.2 href⟩
      exact hover.derive hbase (hname ▸ href) (hpath ▸ hparts)

/-! ## Nodes -/

/-- the kind of a node for a construct: its type is rooted, its bases are identities -/
def NodeKind.Fits (env : Surroundings) (P : String → Prop) : Construct → NodeKind → Prop
  | .container, .container => True
  | .list key, .list keys => key = keys
  | .leaf _, .leaf (some t) => t.Rooted ∧ t.PathsOf P
  | .leafList _, .leafList (some t) => t.Rooted ∧ t.PathsOf P
  | .choice, .choice => True
  | .case, .case => True
  | .typedef _, .typedef (some t) => t.Rooted ∧ t.PathsOf P
  | .identity _, .identity bases => ∀ q ∈ bases, q ∈ env.identities
  | _, _ => False

theorem mem_of_resolveBase {env : Surroundings} {uri : String} {path : List String} {name : String} {q : QName}
    (h : resolveBase env uri path name = .ok q) : q ∈ env.identities := by
  have found : ∀ uri' localName, (if env.identities.contains ⟨uri', localName⟩ then pure ⟨uri', localName⟩
      else refuse path (.unresolvedBase name) : Resolved QName) = .ok q → q ∈ env.identities := by
    intro uri' localName h
    split at h
    · rename_i hq
      cases h
      simpa using hq
    · cases h
  unfold resolveBase at h
  dsimp only at h
  split at h
  · exact found _ _ h
  · obtain ⟨uri', -, h⟩ := ok_of_bind h
    exact found _ _ h

theorem fits_of_resolveConstruct {env : Surroundings} (henv : env.NamesOf P) {uri : String} {path : List String}
    {scope : Scope} (hscope : scope.NamesOf P) (hpath : ∀ part ∈ path, P part) {name : String} {children : List Node}
    {construct : Construct} (href : ∀ r, construct.typeRef? = some r → P (Text.splitQualified r.name).2) {kind : NodeKind}
    (h : resolveConstruct env (afresh env) uri path scope name children construct = .ok kind) : kind.Fits env P construct := by
  unfold resolveConstruct at h
  cases construct with
  | container | choice | case =>
    cases h
    trivial
  | list key =>
    obtain ⟨-, -, h⟩ := ok_of_bind h
    cases h
    rfl
  | leaf type | leafList type =>
    obtain ⟨t, ht, h⟩ := ok_of_bind h
    cases h
    have hden := typeOfRef_afresh_eq_ok_iff.1 ht
    exact ⟨rooted_of_denotes hden, pathsOf_of_denotes henv hscope hpath (href type rfl) hden⟩
  | typedef type =>
    dsimp only at h
    split at h
    · rename_i d hd
      obtain ⟨t, ht, h⟩ := ok_of_bind h
      cases h
      obtain ⟨inner, hinner, rfl⟩ := (afresh_eq_ok_iff (Frame.housed_of_find? hd)).1 ht
      have hdecl : d.NamesOf P := by
        cases scope with
        | nil => cases hd
        | cons f fs => exact hscope f List.mem_cons_self d (List.mem_of_find?_eq_some hd)
      exact ⟨(rooted_of_denotes hinner).over _,
        (pathsOf_of_denotes henv hscope hdecl.path hdecl.type hinner).over hdecl⟩
    · cases h
  | identity bases =>
    obtain ⟨qs, hqs, h⟩ := ok_of_bind h
    cases h
    intro q hq
    obtain ⟨i, hi, rfl⟩ := List.mem_iff_getElem.1 hq
    have hf := ok_of_mapM hqs
    exact mem_of_resolveBase (hf.get (by rw [hf.length_eq]; exact hi) hi)

/-- whether a statement of the construct may have nodes below it -/
def Construct.isInner : Construct → Bool
  | .container | .list _ | .choice | .case => true
  | _ => false

/-- a node whose kind fits a construct is resolved if its children are -/
theorem Node.resolved_of_fits {env : Surroundings} {construct : Construct} {head : Head} {kind : NodeKind}
    {children : List Node} (hfit : kind.Fits env P construct)
    (below : ∀ c ∈ children, c.StandsAt head.name.namespaceUri head.path)
    (hinner : construct.isInner = false → children = [])
    (hcases : construct = .choice → ∀ c ∈ children, c.kind = .case) :
    Node.Resolved env.identities ⟨head, kind, children⟩ := by
  refine ⟨below, fun hne => ?_, fun hk => ?_, ?_, fun t ht => ?_, fun qs hk => ?_⟩
  · cases construct <;> cases kind <;>
      first
      | rfl
      | exact absurd (hinner rfl) hne
      | exact hfit.elim
  · cases construct <;>
      first
      | exact hcases rfl
      | (rw [show kind = .choice from hk] at hfit; exact hfit.elim)
  · refine ⟨?_, ?_, ?_⟩ <;> rintro rfl <;> cases construct <;> exact hfit.elim
  · dsimp only at ht
    cases construct <;> rcases kind with _ | _ | (_ | _) | (_ | _) | _ | _ | (_ | _) | _ | _ <;>
      first
      | exact hfit.elim
      | (cases ht; exact hfit.1)
      | cases ht
  · cases construct <;>
      first
      | (rw [show kind = .identity qs from hk] at hfit; exact hfit)
      | (rw [show kind = .identity qs from hk] at hfit; exact hfit.elim)

theorem NodeKind.Fits.paths {env : Surroundings} {construct : Construct} {kind : NodeKind}
    (hfit : kind.Fits env P construct) {t : TypeDef} (ht : kind.type? = some t) : t.PathsOf P := by
  cases construct <;> rcases kind with _ | _ | (_ | _) | (_ | _) | _ | _ | (_ | _) | _ | _ <;>
    first
    | exact hfit.elim
    | (cases ht; exact hfit.2)
    | cases ht

theorem Node.Resolved.mono {known known' : List QName} {n : Node} (h : n.Resolved known) (hs : known ⊆ known') :
    n.Resolved known' :=
  { h with bases := fun qs hk q hq => hs (h.bases qs hk q hq) }

/-- a node resolved at a place, with all nodes below it -/
structure Node.ResolvedAt (known : List QName) (P : String → Prop) (uri : String) (parent : List String) (n : Node) :
    Prop where
  stands : n.StandsAt uri parent
  all : ∀ x ∈ n.all, x.Resolved known ∧ x.PathsOf P

theorem Node.ResolvedAt.node {env : Surroundings} {uri : String} {parent : List String} {construct : Construct}
    {name : String} {description : Option String} {kind : NodeKind} {children : List Node}
    (hfit : kind.Fits env P construct) (hpath : ∀ part ∈ parent ++ [name], P part)
    (hc : ∀ c ∈ children, c.ResolvedAt env.identities P uri (parent ++ [name]))
    (hinner : construct.isInner = false → children = [])
    (hcases : construct = .choice → ∀ c ∈ children, c.kind = .case) :
    Node.ResolvedAt env.identities P uri parent ⟨⟨⟨uri, name⟩, parent ++ [name], description⟩, kind, children⟩ := by
  refine ⟨⟨rfl, rfl⟩, fun x hx => ?_⟩
  rw [Node.all_eq, List.mem_cons, Node.mem_allIn] at hx
  rcases hx with rfl | ⟨c, hcm, hx⟩
  · exact ⟨Node.resolved_of_fits hfit (fun c h => (hc c h).stands) hinner hcases, fun _ => hpath, fun t ht => hfit.paths ht⟩
  · exact (hc c hcm).all x hx

theorem Scope.NamesOf.cons {scope : Scope} {f : Frame} (h : scope.NamesOf P) (hf : ∀ d ∈ f, d.NamesOf P) :
    Scope.NamesOf P (f :: scope) :=
  List.forall_mem_cons.2 ⟨hf, h⟩

theorem Statement.mem_all_of_below {name : String} {description : Option String} {construct : Construct}
    {children : List Statement} {s : Statement} (h : s ∈ allIn children) : s ∈ (Statement.named name description construct children).all := by
  rw [Statement.all]
  exact List.mem_cons_of_mem _ h

mutual

theorem resolvedAt_of_resolveStatement {env : Surroundings} (henv : env.NamesOf P) {uri : String} :
    ∀ (s : Statement) {parent : List String} {scope : Scope} {n : Node}, (∀ x ∈ s.all, x.NamesOf P) →
    (∀ part ∈ parent, P part) → scope.NamesOf P → resolveStatement env (afresh env) uri parent scope s = .ok n →
    n.ResolvedAt env.identities P uri parent
  | .other keyword argument, parent, scope, n, hs, hparent, hscope, h => by
    unfold resolveStatement at h
    cases h
    refine ⟨⟨rfl, rfl⟩, fun x hx => ?_⟩
    rw [Node.all_eq, List.mem_cons, Node.mem_allIn] at hx
    rcases hx with rfl | ⟨c, hc, -⟩
    · exact ⟨⟨fun c hc => by simp at hc, fun h => absurd rfl h, fun h => by simp at h, ⟨by simp, by simp, by simp⟩,
        fun t ht => by simp [NodeKind.type?] at ht, fun qs hk => by simp at hk⟩, fun h => by simp [NodeKind.isNamed] at h,
        fun t ht => by simp [NodeKind.type?] at ht⟩
    · cases hc
  | .named name description construct children, parent, scope, n, hs, hparent, hscope, h => by
    have hnames := hs _ (Statement.mem_all_self _)
    have hpath : ∀ part ∈ parent ++ [name], P part :=
      List.forall_mem_append.2 ⟨hparent, List.forall_mem_singleton.2 hnames.1⟩
    have hbelow : ∀ x ∈ Statement.allIn children, x.NamesOf P := fun x hx => hs x (Statement.mem_all_of_below hx)
    have htop : ∀ x ∈ children, x.NamesOf P := fun x hx => hbelow x (Statement.subset_allIn hx)
    unfold resolveStatement at h
    cases construct with
    | choice =>
      obtain ⟨nodes, hnodes, h⟩ := ok_of_bind h
      obtain ⟨kind, hkind, h⟩ := ok_of_bind h
      cases h
      have hc := resolvedAt_of_resolveCases henv children hbelow hpath hscope hnodes
      exact .node (fits_of_resolveConstruct henv hscope hpath hnames.2 hkind) hpath (fun c h => (hc c h).1)
        (fun h => by cases h) fun _ c h => (hc c h).2
    | container | list key | case =>
      obtain ⟨frame, hframe, h⟩ := ok_of_bind h
      obtain ⟨nodes, hnodes, h⟩ := ok_of_bind h
      obtain ⟨kind, hkind, h⟩ := ok_of_bind h
      cases h
      have hinside := hscope.cons (namesOf_of_openFrame hpath htop hframe)
      exact .node (fits_of_resolveConstruct henv hscope hpath hnames.2 hkind) hpath
        (resolvedAt_of_resolveStatements henv children hbelow hpath hinside hnodes) (fun h => by cases h)
        (fun h => by cases h)
    | leaf type | leafList type | typedef type | identity bases =>
      obtain ⟨nodes, hnodes, h⟩ := ok_of_bind h
      obtain ⟨kind, hkind, h⟩ := ok_of_bind h
      cases h
      cases hnodes
      exact .node (fits_of_resolveConstruct henv hscope hpath hnames.2 hkind) hpath (fun c h => by cases h)
        (fun _ => rfl) (fun h => by cases h)

theorem resolvedAt_of_resolveStatements {env : Surroundings} (henv : env.NamesOf P) {uri : String} :
    ∀ (ss : List Statement) {parent : List String} {scope : Scope} {ns : List Node},
    (∀ x ∈ Statement.allIn ss, x.NamesOf P) → (∀ part ∈ parent, P part) → scope.NamesOf P →
    resolveStatements env (afresh env) uri parent scope ss = .ok ns → ∀ n ∈ ns, n.ResolvedAt env.identities P uri parent
  | [], parent, scope, ns, hss, hparent, hscope, h => by
    unfold resolveStatements at h
    cases h
    exact fun n hn => by cases hn
  | s :: ss, parent, scope, ns, hss, hparent, hscope, h => by
    rw [Statement.allIn, List.forall_mem_append] at hss
    unfold resolveStatements at h
    obtain ⟨n, hn, h⟩ := ok_of_bind h
    obtain ⟨ns', hns, h⟩ := ok_of_bind h
    cases h
    exact List.forall_mem_cons.2 ⟨resolvedAt_of_resolveStatement henv s hss.1 hparent hscope hn,
      resolvedAt_of_resolveStatements henv ss hss.2 hparent hscope hns⟩

theorem resolvedAt_of_resolveCases {env : Surroundings} (henv : env.NamesOf P) {uri : String} :
    ∀ (ss : List Statement) {choice : List String} {scope : Scope} {ns : List Node},
    (∀ x ∈ Statement.allIn ss, x.NamesOf P) → (∀ part ∈ choice, P part) → scope.NamesOf P →
    resolveCases env (afresh env) uri choice scope ss = .ok ns →
    ∀ n ∈ ns, n.ResolvedAt env.identities P uri choice ∧ n.kind = .case
  | [], choice, scope, ns, hss, hchoice, hscope, h => by
    simp only [resolveCases] at h
    cases h
    exact fun n hn => by cases hn
  | .other keyword argument :: ss, choice, scope, ns, hss, hchoice, hscope, h => by
    rw [Statement.allIn, List.forall_mem_append] at hss
    simp only [resolveCases] at h
    exact resolvedAt_of_resolveCases henv ss hss.2 hchoice hscope h
  | .named name description construct children :: ss, choice, scope, ns, hss, hchoice, hscope, h => by
    rw [Statement.allIn, List.forall_mem_append] at hss
    have hnames := hss.1 _ (Statement.mem_all_self _)
    have hpath : ∀ part ∈ choice ++ [name], P part :=
      List.forall_mem_append.2 ⟨hchoice, List.forall_mem_singleton.2 hnames.1⟩
    have hbelow : ∀ x ∈ Statement.allIn children, x.NamesOf P := fun x hx => hss.1 x (Statement.mem_all_of_below hx)
    have htop : ∀ x ∈ children, x.NamesOf P := fun x hx => hbelow x (Statement.subset_allIn hx)
    have hfit : NodeKind.Fits env P .case .case := trivial
    cases construct with
    | case =>
      simp only [resolveCases] at h
      obtain ⟨frame, hframe, h⟩ := ok_of_bind h
      obtain ⟨nodes, hnodes, h⟩ := ok_of_bind h
      obtain ⟨ns', hns, h⟩ := ok_of_bind h
      cases h
      have hinside := hscope.cons (namesOf_of_openFrame hpath htop hframe)
      refine List.forall_mem_cons.2 ⟨⟨?_, rfl⟩, resolvedAt_of_resolveCases henv ss hss.2 hchoice hscope hns⟩
      exact .node hfit hpath (resolvedAt_of_resolveStatements henv children hbelow hpath hinside hnodes)
        (fun h => by cases h) (fun h => by cases h)
    | container | list _ | leaf _ | leafList _ | choice | typedef _ | identity _ =>
      simp only [resolveCases] at h
      obtain ⟨node, hnode, h⟩ := ok_of_bind h
      obtain ⟨ns', hns, h⟩ := ok_of_bind h
      cases h
      refine List.forall_mem_cons.2 ⟨⟨?_, rfl⟩, resolvedAt_of_resolveCases henv ss hss.2 hchoice hscope hns⟩
      refine .node hfit hpath (fun c hc => ?_) (fun h => by cases h) (fun h => by cases h)
      obtain rfl := List.mem_singleton.1 hc
      exact resolvedAt_of_resolveStatement henv (.named name description _ children) hss.1 hpath hscope hnode

end

/-! ## Modules -/

theorem resolveStatements_complete {env : Surroundings} {uri : String} {parent : List String} {scope : Scope}
    {ss : List Statement} {ns : List Node} (h : resolveStatements env (afresh env) uri parent scope ss = .ok ns) :
    List.Forall₂ (fun s n => resolveStatement env (afresh env) uri parent scope s = .ok n) ss ns := by
  induction ss generalizing ns with
  | nil =>
    unfold resolveStatements at h
    cases h
    exact .nil
  | cons s ss ih =>
    unfold resolveStatements at h
    obtain ⟨n, hn, h⟩ := ok_of_bind h
    obtain ⟨ns', hns, h⟩ := ok_of_bind h
    cases h
    exact .cons hn (ih hns)

/-- what a document offers is what its modules offer, one after the other -/
theorem identities_of_add {env env' : Surroundings} {m : ModuleDecl} (h : env.add m = .ok env') :
    env'.identities = env.identities ++ m.identities := by
  unfold Surroundings.add at h
  obtain ⟨frame, -, h⟩ := ok_of_bind h
  cases h
  rfl

theorem identities_of_foldlM {ms : List ModuleDecl} {env env' : Surroundings}
    (h : ms.foldlM Surroundings.add env = .ok env') : env'.identities = env.identities ++ ms.flatMap (·.identities) := by
  induction ms generalizing env with
  | nil =>
    cases h
    simp
  | cons m ms ih =>
    rw [List.foldlM_cons] at h
    obtain ⟨env1, h1, h⟩ := ok_of_bind h
    rw [ih h, identities_of_add h1, List.flatMap_cons, List.append_assoc]

/-- an identity statement becomes an identity of its name -/
theorem identity_of_resolveStatement {env : Surroundings} {uri name : String} {parent : List String} {scope : Scope}
    {description : Option String} {bases : List String} {children : List Statement} {n : Node}
    (h : resolveStatement env (afresh env) uri parent scope (.named name description (.identity bases) children) = .ok n) :
    ∃ i, n.identity? = some i ∧ i.head.name = ⟨uri, name⟩ := by
  unfold resolveStatement at h
  obtain ⟨nodes, hnodes, h⟩ := ok_of_bind h
  obtain ⟨kind, hkind, h⟩ := ok_of_bind h
  obtain ⟨qs, -, hkind⟩ := ok_of_bind hkind
  cases hkind
  cases h
  exact ⟨_, rfl, rfl⟩

theorem mem_identities_of_resolveModule {env : Surroundings} {m : ModuleDecl} {m' : Module}
    (h : resolveModule env (afresh env) m = .ok m') {q : QName} (hq : q ∈ m.identities) :
    ∃ i ∈ m'.statements.filterMap Node.identity?, i.head.name = q := by
  unfold resolveModule at h
  obtain ⟨nodes, hnodes, h⟩ := ok_of_bind h
  cases h
  obtain ⟨s, hs, hsq⟩ := List.mem_filterMap.1 hq
  obtain ⟨k, hk, rfl⟩ := List.mem_iff_getElem.1 hs
  have hf := resolveStatements_complete hnodes
  have hk' : k < nodes.length := by rw [← hf.length_eq]; exact hk
  have hn := hf.get hk hk'
  split at hsq
  · rename_i hstatement
    cases hsq
    rw [List.get_eq_getElem, hstatement] at hn
    obtain ⟨i, hi, hname⟩ := identity_of_resolveStatement hn
    exact ⟨i, List.mem_filterMap.2 ⟨_, List.getElem_mem hk', hi⟩, hname⟩
  · cases hsq

theorem namesOf_of_add {env env' : Surroundings} {m : ModuleDecl} (henv : env.NamesOf P)
    (hm : ∀ s ∈ Statement.allIn m.statements, s.NamesOf P) (h : env.add m = .ok env') : env'.NamesOf P := by
  unfold Surroundings.add at h
  obtain ⟨frame, hframe, h⟩ := ok_of_bind h
  cases h
  intro uri f hf
  rw [Assoc.find?_insert] at hf
  split at hf
  · cases hf
    exact namesOf_of_openFrame (fun part hpart => by cases hpart) (fun s hs => hm s (Statement.subset_allIn hs)) hframe
  · exact henv uri f hf

theorem namesOf_of_foldlM {ms : List ModuleDecl} {env env' : Surroundings} (henv : env.NamesOf P)
    (hms : ∀ m ∈ ms, ∀ s ∈ Statement.allIn m.statements, s.NamesOf P) (h : ms.foldlM Surroundings.add env = .ok env') :
    env'.NamesOf P := by
  induction ms generalizing env with
  | nil =>
    cases h
    exact henv
  | cons m ms ih =>
    rw [List.foldlM_cons] at h
    obtain ⟨env1, h1, h⟩ := ok_of_bind h
    obtain ⟨hm, hms⟩ := List.forall_mem_cons.1 hms
    exact ih (namesOf_of_add henv hm h1) hms h

theorem resolvedAt_of_resolveModule {env : Surroundings} (henv : env.NamesOf P) {m : ModuleDecl} {m' : Module}
    (hm : ∀ s ∈ Statement.allIn m.statements, s.NamesOf P) (h : resolveModule env (afresh env) m = .ok m') :
    ∀ n ∈ m'.statements, n.ResolvedAt env.identities P m'.namespaceUri [] := by
  unfold resolveModule at h
  obtain ⟨nodes, hnodes, h⟩ := ok_of_bind h
  cases h
  refine resolvedAt_of_resolveStatements henv m.statements hm (fun part hpart => by cases hpart) ?_ hnodes
  intro f hf d hd
  obtain rfl := List.mem_singleton.1 hf
  cases hfind : env.frames.find? m.namespaceUri with
  | none =>
    rw [hfind] at hd
    cases hd
  | some f =>
    rw [hfind] at hd
    exact henv _ f hfind d hd

/-- **Resolved trees are well formed.** What resolution answers is resolved at every node, and a property of the names in a
document is one of the parts of all paths. -/
theorem Document.resolved {d : Document} {t : Tree} (h : d.resolve = .ok t) (hd : d.NamesOf P) :
    t.Resolved ∧ ∀ n ∈ t.nodes, n.PathsOf P := by
  rw [Document.resolve_eq] at h
  obtain ⟨env, henv, h⟩ := ok_of_bind h
  obtain ⟨ms, hms, h⟩ := ok_of_bind h
  cases h
  have hf := ok_of_mapM hms
  have hnames : env.NamesOf P := namesOf_of_foldlM (fun uri f hf => by cases hf) hd henv
  have hplaced : ∀ m' ∈ ms, ∀ n ∈ m'.statements, n.ResolvedAt env.identities P m'.namespaceUri [] := by
    intro m' hm'
    obtain ⟨k, hk, rfl⟩ := List.mem_iff_getElem.1 hm'
    have hk' : k < d.modules.length := by rw [hf.length_eq]; exact hk
    exact resolvedAt_of_resolveModule hnames (hd _ (List.getElem_mem hk')) (hf.get hk' hk)
  have hknown : env.identities ⊆ (Tree.topIdentities ⟨ms⟩).map (·.head.name) := by
    intro q hq
    rw [identities_of_foldlM henv, List.nil_append, List.mem_flatMap] at hq
    obtain ⟨m, hm, hq⟩ := hq
    obtain ⟨k, hk, rfl⟩ := List.mem_iff_getElem.1 hm
    have hk' : k < ms.length := by rw [← hf.length_eq]; exact hk
    obtain ⟨i, hi, hname⟩ := mem_identities_of_resolveModule (hf.get hk hk') hq
    exact List.mem_map.2 ⟨i, List.mem_flatMap.2 ⟨_, List.getElem_mem hk', hi⟩, hname⟩
  have hall : ∀ n ∈ Tree.nodes ⟨ms⟩, n.Resolved env.identities ∧ n.PathsOf P := by
    intro n hn
    obtain ⟨m, hm, hnm⟩ := Tree.mem_nodes.1 hn
    obtain ⟨s, hs, hns⟩ := Node.mem_allIn.1 hnm
    exact (hplaced m hm s hs).all n hns
  exact ⟨⟨fun m hm n hn => (hplaced m hm n hn).stands, fun n hn => (hall n hn).1.mono hknown⟩, fun n hn => (hall n hn).2⟩

theorem Statement.namesOf_true (s : Statement) : s.NamesOf fun _ => True := by
  cases s
  · exact ⟨trivial, fun _ _ => trivial⟩
  · trivial

theorem Document.resolve_resolved {d : Document} {t : Tree} (h : d.resolve = .ok t) : t.Resolved :=
  (Document.resolved h fun _ _ s _ => s.namesOf_true).1

namespace Tree

theorem Resolved.rooted {t : Tree} (h : t.Resolved) {u : TypeDef} (hu : u ∈ t.types) : u.Rooted := by
  obtain ⟨n, hn, hun⟩ := List.mem_flatMap.1 hu
  unfold Node.types at hun
  split at hun
  · rename_i r hr
    obtain ⟨k, hk⟩ := (h.nodes n hn).rooted r hr
    exact ⟨k, fun v hv => hk v (TypeDef.chain_subset hun v hv)⟩
  · simp at hun

theorem Resolved.statement_path {t : Tree} (h : t.Resolved) {i : Identity} (hi : i ∈ t.topIdentities) :
    i.head.path = [i.head.name.localName] := by
  obtain ⟨m, hm, n, hn, -, hhead⟩ := mem_topIdentities.1 hi
  have hp := (h.top m hm n hn).2
  rw [Node.label, hhead] at hp
  exact hp

/-- the bases of the identities at the top are identities of the tree -/
theorem Resolved.base_isSome {t : Tree} (h : t.Resolved) {i : Identity} (hi : i ∈ t.topIdentities) {q : QName}
    (hq : q ∈ i.bases) : (t.identity? q).isSome := by
  obtain ⟨m, hm, n, hn, hk, -⟩ := mem_topIdentities.1 hi
  obtain ⟨b, hb, rfl⟩ := List.mem_map.1 ((h.nodes n (statement_mem_nodes hm hn)).bases i.bases hk q hq)
  exact identity?_isSome hb

end Tree

end YangDesign.Schema
