/-
Resolution types every use in a document by static scope.

`Outcome` says what an answer satisfies and what a failure does. A typedef in a document has the type that static scope gives
it, or resolution fails for a reason of the document; one that is refused as circular leads back to itself
(`Document.Fault`). The walk keeps this for all uses in a statement (`outcome_resolveStatement`), and so
`Document.typed_of_resolve` sets the uses of a document beside the nodes of its tree that have a type.
-/
import YangDesign.Proofs.Schema.Lexical
import YangDesign.Proofs.Schema.Resolution

namespace YangDesign.Schema

open Relation

/-! ## The walk by equations -/

section Equations

variable {env : Surroundings} {typeOf : Declaration → Resolved TypeDef} {uri : String} {scope : Scope}

/-- the nodes below a statement of a construct -/
def resolveBelow (env : Surroundings) (typeOf : Declaration → Resolved TypeDef) (uri : String) (path : List String)
    (scope : Scope) (children : List Statement) : Construct → Resolved (List Node)
  | .choice => resolveCases env typeOf uri path scope children
  | .container | .list _ | .case => do
    let frame ← openFrame path children
    resolveStatements env typeOf uri path (frame :: scope) children
  | _ => pure []

theorem resolveStatement_named {parent : List String} {name : String} {description : Option String}
    {construct : Construct} {children : List Statement} :
    resolveStatement env typeOf uri parent scope (.named name description construct children) = do
      let nodes ← resolveBelow env typeOf uri (parent ++ [name]) scope children construct
      let kind ← resolveConstruct env typeOf uri (parent ++ [name]) scope name nodes construct
      return ⟨⟨⟨uri, name⟩, parent ++ [name], description⟩, kind, nodes⟩ := by
  unfold resolveStatement
  cases construct with
  | container | list _ | case =>
    simp only [resolveBelow]
    cases openFrame (parent ++ [name]) children <;> rfl
  | choice | leaf _ | leafList _ | typedef _ | identity _ => rfl

/-- the nodes of a choice for the node of a statement in it -/
def Statement.inChoice (uri : String) (choice : List String) (n : Node) : Statement → List Node
  | .named _ _ .case _ => [n]
  | .named name .. => [⟨⟨⟨uri, name⟩, choice ++ [name], none⟩, .case, [n]⟩]
  | .other .. => []

theorem resolveCases_cons {choice : List String} {s : Statement} {ss : List Statement} :
    resolveCases env typeOf uri choice scope (s :: ss) = do
      let n ← resolveStatement env typeOf uri (s.pathInChoice choice) scope s
      let ns ← resolveCases env typeOf uri choice scope ss
      return s.inChoice uri choice n ++ ns := by
  cases s with
  | other keyword argument =>
    simp only [resolveCases, resolveStatement]
    cases resolveCases env typeOf uri choice scope ss <;> rfl
  | named name description construct children =>
    cases construct with
    | case =>
      simp only [resolveCases, resolveStatement_named, resolveBelow, Statement.pathInChoice]
      cases openFrame (choice ++ [name]) children with
      | error e => rfl
      | ok frame =>
        simp only [liftM, monadLift, bind, Except.bind]
        cases resolveStatements env typeOf uri (choice ++ [name]) (frame :: scope) children <;> rfl
    | container | list _ | leaf _ | leafList _ | choice | typedef _ | identity _ =>
      simp only [resolveCases]
      rfl

theorem checkKeys_eq_ok_iff {path leaves keys : List String} :
    checkKeys path leaves keys = .ok () ↔ ∀ key ∈ keys, key ∈ leaves := by
  induction keys with
  | nil => simp [checkKeys]
  | cons key keys ih =>
    unfold checkKeys
    by_cases hkey : key ∈ leaves
    · simp [hkey, ih]
    · simp [hkey, refuse]

end Equations

/-! ## Outcomes -/

/-- an answer satisfies one property, a failure another -/
def Outcome {α : Type} (x : Resolved α) (answer : α → Prop) (failure : ResolutionFailure → Prop) : Prop :=
  match x with
  | .ok a => answer a
  | .error e => failure e

namespace Outcome

variable {α β : Type} {x : Resolved α} {answer answer' : α → Prop} {failure : ResolutionFailure → Prop}

theorem pure {a : α} (h : answer a) : Outcome (pure a) answer failure := h

theorem imp (h : Outcome x answer failure) (himp : ∀ a, answer a → answer' a) : Outcome x answer' failure := by
  cases x with
  | ok a => exact himp a h
  | error e => exact h

theorem weaken {failure' : ResolutionFailure → Prop} (h : Outcome x answer failure)
    (himp : ∀ e, failure e → failure' e) : Outcome x answer failure' := by
  cases x with
  | ok a => exact h
  | error e => exact himp e h

/-- an answer is described by itself -/
theorem of_ok (h : Outcome x (fun _ => True) failure) (hok : ∀ a, x = .ok a → answer a) : Outcome x answer failure := by
  cases x with
  | ok a => exact hok a rfl
  | error e => exact h

theorem bind {f : α → Resolved β} {answer' : β → Prop} (h : Outcome x answer failure)
    (hf : ∀ a, x = .ok a → answer a → Outcome (f a) answer' failure) : Outcome (x >>= f) answer' failure := by
  cases x with
  | ok a => exact hf a rfl h
  | error e => exact h

theorem answered (h : Outcome x answer failure) {a : α} (ha : x = .ok a) : answer a := by
  rw [ha] at h
  exact h

theorem failed (h : Outcome x answer failure) {e : ResolutionFailure} (he : x = .error e) : failure e := by
  rw [he] at h
  exact h

end Outcome

namespace Document

variable {d : Document} {env : Surroundings}

/-- a failure of a document: it is at a place, and a typedef that is refused as circular leads back to itself -/
def Fault (d : Document) : ResolutionFailure → Prop
  | .unresolved cause path => ∀ name, cause = .circularTypedef name →
    ∃ x ∈ d.typedefs, x.typedef.name = name ∧ x.typedef.path = path ∧ TransGen (Leads d.Binds) x x
  | .undeclared _ => False

theorem fault_unresolved {path : List String} {cause : ResolutionCause} (h : ∀ name, cause ≠ .circularTypedef name) :
    d.Fault (.unresolved cause path) :=
  fun name hname => absurd hname (h name)

theorem outcome_openFrame {path : List String} {ss : List Statement} :
    Outcome (openFrame path ss) (fun f => f = declaredIn path ss ∧ f.Distinct) d.Fault := by
  cases h : openFrame path ss with
  | ok f => exact openFrame_eq_ok_iff.1 h
  | error e =>
    unfold openFrame at h
    split at h
    · cases h
    · cases h
      exact fault_unresolved (by simp)

theorem outcome_resolveEnums {path : List String} {es : List EnumDecl} :
    Outcome (resolveEnums path es) (fun _ => True) d.Fault := by
  unfold resolveEnums
  split
  · exact fault_unresolved (by simp)
  · trivial

theorem outcome_namespaceOf {label : String} {path : List String} :
    Outcome (env.namespaceOf label path) (fun _ => True) d.Fault := by
  unfold Surroundings.namespaceOf
  split
  · trivial
  · exact fault_unresolved (by simp)

theorem outcome_typedefOf {name uri : String} {scope : Scope} {path : List String} :
    Outcome (env.typedefOf name uri scope path) (fun x => env.Binds name uri scope x) d.Fault := by
  refine .of_ok ?_ fun x hx => ⟨path, hx⟩
  unfold Surroundings.typedefOf
  obtain ⟨label, localName⟩ := Text.splitQualified name
  have hplace : Outcome (env.placeOf uri scope path label) (fun _ => True) d.Fault := by
    unfold Surroundings.placeOf
    split
    · trivial
    · exact outcome_namespaceOf.bind fun _ _ _ => .pure trivial
  refine hplace.bind fun ⟨uri', s⟩ _ _ => ?_
  dsimp only
  split
  · exact .pure trivial
  · exact fault_unresolved (by simp)

theorem outcome_resolveBase {uri : String} {path : List String} {name : String} :
    Outcome (resolveBase env uri path name) (fun _ => True) d.Fault := by
  have found : ∀ uri' localName, Outcome (if env.identities.contains ⟨uri', localName⟩ then pure ⟨uri', localName⟩
      else refuse path (.unresolvedBase name) : Resolved QName) (fun _ => True) d.Fault := by
    intro uri' localName
    split
    · exact .pure trivial
    · exact fault_unresolved (by simp)
  unfold resolveBase
  dsimp only
  split
  · exact found _ _
  · exact outcome_namespaceOf.bind fun _ _ _ => found _ _

theorem outcome_mapM {α β : Type} {f : α → Resolved β} {failure : ResolutionFailure → Prop}
    (h : ∀ a, Outcome (f a) (fun _ => True) failure) (as : List α) : Outcome (as.mapM f) (fun _ => True) failure := by
  induction as with
  | nil => exact .pure trivial
  | cons a as ih =>
    rw [List.mapM_cons]
    exact (h a).bind fun _ _ _ => ih.bind fun _ _ _ => .pure trivial

theorem outcome_checkKeys {path leaves keys : List String} :
    Outcome (checkKeys path leaves keys) (fun _ => True) d.Fault := by
  induction keys with
  | nil => trivial
  | cons key keys ih =>
    unfold checkKeys
    split
    · exact ih
    · exact fault_unresolved (by simp)

/-- a reference denotes a type over what is found for typedefs; it fails as they do, or with a fault of its own -/
theorem outcome_typeOfRef {failure : ResolutionFailure → Prop} (hfault : ∀ e, d.Fault e → failure e)
    {typeOf : Declaration → Resolved TypeDef} {has : Declaration → TypeDef → Prop} {ref : TypeRef} {uri : String}
    {owner : List String} {scope : Scope}
    (h : ∀ x, ref.builtIn? = none → env.Binds ref.name uri scope x → Outcome (typeOf x) (has x) failure) :
    Outcome (typeOfRef env typeOf ref uri owner scope) (Gives env.Binds has ref uri owner scope) failure := by
  refine .of_ok ?_ fun t ht => (typeOfRef_eq_ok_iff.1 ht).mono fun x hn hx u hu => (h x hn hx).answered hu
  unfold typeOfRef
  refine (outcome_resolveEnums.weaken hfault).bind fun enums _ _ => ?_
  split
  · split
    · exact hfault _ (fault_unresolved (by simp))
    · exact .pure trivial
  · rename_i hnone
    refine (outcome_typedefOf.weaken hfault).bind fun x _ hx => (h x hnone hx).bind fun base _ _ => ?_
    split
    · exact hfault _ (fault_unresolved (by simp))
    · exact .pure trivial

/-- **A typedef of a document has its type, or a fault of the document is found.** One that already waits leads back to
itself. -/
theorem outcome_afreshWithin (h : d.surroundings = .ok env) {spent : Declaration → Resolved TypeDef}
    {reach : List Declaration} {steps : Nat} {pending : List Declaration} {x : Declaration}
    (hw : Waiting env reach steps pending x) (hx : x ∈ d.typedefs) :
    Outcome (afreshWithin env spent steps pending x) (x.Has env.Binds) d.Fault := by
  induction steps generalizing pending x with
  | zero => exact absurd rfl hw.steps_ne_zero
  | succ steps ih =>
    rw [afreshWithin_succ]
    by_cases hmem : x ∈ pending
    · rw [if_pos (by simpa using hmem)]
      intro name hname
      cases hname
      exact ⟨x, hx, rfl, rfl, TransGen.mono (leads_of_lookUp h) _ _ (hw.leads x hmem)⟩
    · rw [if_neg (by simpa using hmem)]
      refine (outcome_typeOfRef (fun _ => id) fun y hn hy => ?_).bind
        fun inner _ hinner => .pure ⟨inner, denotes_iff_gives.2 hinner, rfl⟩
      exact ih (hw.next hmem ⟨hn, hy⟩) (mem_typedefs_of_leads hx (leads_of_lookUp h x y ⟨hn, hy⟩))

theorem outcome_afresh (h : d.surroundings = .ok env) {x : Declaration} (hhoused : x.Housed) (hx : x ∈ d.typedefs) :
    Outcome (afresh env x) (x.Has env.Binds) d.Fault :=
  outcome_afreshWithin h (Waiting.start hhoused 0) hx

theorem outcome_typeOfRef_afresh (h : d.surroundings = .ok env) {ref : TypeRef} {uri : String} {owner : List String}
    {scope : Scope} (hs : d.Covers uri scope) :
    Outcome (typeOfRef env (afresh env) ref uri owner scope) (Denotes env.Binds ref uri owner scope) d.Fault :=
  (outcome_typeOfRef (fun _ => id) fun _ _ hx =>
    outcome_afresh h hx.housed (Binds.mem_typedefs hs (binds_of_lookUp h hx))).imp fun _ => denotes_iff_gives.2

end Document

/-! ## Uses and nodes -/

/-- whether a statement is a typedef -/
def Statement.isTypedef : Statement → Bool
  | .named _ _ (.typedef _) _ => true
  | _ => false

/-- whether no typedef stands directly among the cases of a choice -/
def Statement.casesPlain : Statement → Bool
  | .named _ _ .choice cases => cases.all (!·.isTypedef)
  | _ => true

/-- no typedef of a document stands directly among the cases of a choice -/
def Document.CasesPlain (d : Document) : Prop :=
  ∀ m ∈ d.modules, ∀ s ∈ Statement.allIn m.statements, s.casesPlain = true

instance (d : Document) : Decidable d.CasesPlain :=
  inferInstanceAs (Decidable (∀ m ∈ d.modules, ∀ s ∈ Statement.allIn m.statements, s.casesPlain = true))

/-- the type of a use -/
def Use.Has (binds : Binding) (u : Use) (t : TypeDef) : Prop :=
  match u.construct with
  | .leaf type | .leafList type => Denotes binds type u.uri u.path u.scope t
  | .typedef type => Declaration.Has binds ⟨⟨u.name, type, u.description, u.path⟩, u.uri, u.scope⟩ t
  | _ => False

/-- the kind of the node of a use with a type -/
def Use.kind (u : Use) (t : TypeDef) : NodeKind :=
  match u.construct with
  | .leafList _ => .leafList (some t)
  | .typedef _ => .typedef (some t)
  | _ => .leaf (some t)

/-- a node is that of a use, with the type that the use has -/
structure Use.Typed (binds : Binding) (u : Use) (n : Node) : Prop where
  head : n.head = ⟨⟨u.uri, u.name⟩, u.path, u.description⟩
  type : ∃ t, u.Has binds t ∧ n.kind = u.kind t
  distinct : u.scope.Distinct
  housed : ∀ x, u.declaration? = some x → x.Housed

/-- whether a node has a type -/
def Node.isTyped (n : Node) : Bool :=
  n.kind.type?.isSome

/-- what the walk finds for some uses: their nodes are the typed ones among all -/
def TypedIn (env : Surroundings) (us : List Use) (ns : List Node) : Prop :=
  List.Forall₂ (Use.Typed env.Binds) us (ns.filter Node.isTyped)

theorem TypedIn.append {env : Surroundings} {us vs : List Use} {ns ms : List Node} (hu : TypedIn env us ns)
    (hv : TypedIn env vs ms) : TypedIn env (us ++ vs) (ns ++ ms) := by
  unfold TypedIn
  rw [List.filter_append]
  exact List.rel_append hu hv

theorem TypedIn.cons {env : Surroundings} {us : List Use} {n : Node} {ns : List Node} (h : TypedIn env us ns)
    (hn : n.kind.type? = none) : TypedIn env us (n :: ns) := by
  unfold TypedIn
  rw [List.filter_cons_of_neg (by simp [Node.isTyped, hn])]
  exact h

/-- what the walk knows of a place with some uses and statements -/
structure Document.Place (d : Document) (uri : String) (scope : Scope) (us : List Use) (ss : List Statement) : Prop where
  covers : d.Covers uri scope
  distinct : scope.Distinct
  uses : us.filterMap Use.declaration? ⊆ d.typedefs
  plain : ∀ s ∈ ss, s.casesPlain = true

theorem Statement.typedef?_eq_none {s : Statement} (h : s.isTypedef = false) (path : List String) :
    s.typedef? path = none := by
  cases s with
  | other keyword argument => rfl
  | named name description construct children =>
    cases construct with
    | typedef type => cases h
    | container | list _ | leaf _ | leafList _ | choice | case | identity _ => rfl

theorem mem_declarations_of_housed {x : Declaration} (h : x.Housed) : x ∈ declarations x.uri x.scope := by
  unfold Declaration.Housed at h
  rw [mem_declarations]
  cases hs : x.scope with
  | nil => rw [hs] at h; cases h
  | cons f fs =>
    rw [hs] at h
    exact ⟨rfl, f, fs, rfl, List.suffix_rfl, h⟩

namespace Document

variable {d : Document} {env : Surroundings}

/-- what a construct makes of the type of its use, if it has one -/
theorem outcome_resolveConstruct (h : d.surroundings = .ok env) (children : List Node) {uri : String} {parent : List String}
    {scope : Scope} {name : String} {description : Option String} {construct : Construct} {ss : List Statement}
    (hcovers : d.Covers uri scope) (hdistinct : scope.Distinct)
    (hhoused : ∀ t, (Statement.named name description construct ss).typedef? parent = some t → t ∈ scope.headD []) :
    Outcome (resolveConstruct env (afresh env) uri (parent ++ [name]) scope name children construct)
      (fun kind => match construct with
        | .leaf _ | .leafList _ | .typedef _ =>
          ∃ t, Use.Has env.Binds ⟨name, description, construct, parent ++ [name], uri, scope⟩ t ∧
            kind = Use.kind ⟨name, description, construct, parent ++ [name], uri, scope⟩ t
        | _ => kind.type? = none) d.Fault := by
  unfold resolveConstruct
  cases construct with
  | container | choice | case => exact .pure rfl
  | list key => exact outcome_checkKeys.bind fun _ _ _ => .pure rfl
  | leaf type | leafList type => exact (outcome_typeOfRef_afresh h hcovers).bind fun t _ ht => .pure ⟨t, ht, rfl⟩
  | typedef type =>
    have hown := hhoused _ rfl
    have hfind : (scope.headD []).find? name = some ⟨name, type, description, parent ++ [name]⟩ := by
      refine Frame.Distinct.find? (t := ⟨name, type, description, parent ++ [name]⟩) ?_ hown
      cases scope with
      | nil => exact List.nodup_nil
      | cons f fs => exact hdistinct f List.mem_cons_self
    dsimp only
    rw [hfind]
    have hhas := outcome_afresh h (x := ⟨_, uri, scope⟩) hown (hcovers (mem_declarations_of_housed hown))
    exact hhas.bind fun t _ ht => .pure ⟨t, ht, rfl⟩
  | identity bases => exact (outcome_mapM (fun _ => outcome_resolveBase) bases).bind fun _ _ _ => .pure rfl

/-- what stands below an inner statement stands in its list as well -/
theorem Place.inner {uri : String} {path : List String} {scope : Scope} {children : List Statement} {ss : List Statement}
    (hp : d.Place uri scope (usesIn uri path (declaredIn path children :: scope) children) ss)
    (hsub : Statement.allIn children ⊆ ss) (hdistinct : (declaredIn path children).Distinct) :
    d.Place uri (declaredIn path children :: scope) (usesIn uri path (declaredIn path children :: scope) children)
      (Statement.allIn children) where
  covers := by
    intro x hx
    rw [declarations, List.mem_append, List.mem_map] at hx
    rcases hx with ⟨t, ht, rfl⟩ | hx
    · exact hp.uses (declared_mem_uses ht)
    · exact hp.covers hx
  distinct := List.forall_mem_cons.2 ⟨hdistinct, hp.distinct⟩
  uses := hp.uses
  plain := fun s hs => hp.plain s (hsub hs)

theorem Place.left {uri : String} {scope : Scope} {us vs : List Use} {ss ts : List Statement}
    (hp : d.Place uri scope (us ++ vs) (ss ++ ts)) : d.Place uri scope us ss where
  covers := hp.covers
  distinct := hp.distinct
  uses := fun x hx => hp.uses (by rw [List.filterMap_append]; exact List.mem_append_left _ hx)
  plain := fun s hs => hp.plain s (List.mem_append_left _ hs)

theorem Place.right {uri : String} {scope : Scope} {us vs : List Use} {ss ts : List Statement}
    (hp : d.Place uri scope (us ++ vs) (ss ++ ts)) : d.Place uri scope vs ts where
  covers := hp.covers
  distinct := hp.distinct
  uses := fun x hx => hp.uses (by rw [List.filterMap_append]; exact List.mem_append_right _ hx)
  plain := fun s hs => hp.plain s (List.mem_append_right _ hs)

/-- the node of an inner statement has no type of its own -/
theorem typedIn_inner {us : List Use} {head : Head} {kind : NodeKind} {nodes : List Node}
    (hnodes : TypedIn env us (Node.allIn nodes)) (hkind : kind.type? = none) :
    TypedIn env us (Node.all ⟨head, kind, nodes⟩) := by
  rw [Node.all_eq]
  exact hnodes.cons hkind

/-- the node of a use has its type -/
theorem typedIn_use {u : Use} {t : TypeDef} (h : u.Has env.Binds t) (hdistinct : u.scope.Distinct)
    (hhoused : ∀ x, u.declaration? = some x → x.Housed) :
    TypedIn env [u] (Node.all ⟨⟨⟨u.uri, u.name⟩, u.path, u.description⟩, u.kind t, []⟩) := by
  have htyped : Node.isTyped ⟨⟨⟨u.uri, u.name⟩, u.path, u.description⟩, u.kind t, []⟩ = true := by
    unfold Node.isTyped Use.kind
    split <;> rfl
  rw [TypedIn, Node.all_eq, List.filter_cons_of_pos htyped]
  exact .cons ⟨rfl, ⟨t, h, rfl⟩, hdistinct, hhoused⟩ .nil

theorem typedIn_inChoice {s : Statement} {uri : String} {parent choice : List String} {scope : Scope} {n : Node}
    (h : TypedIn env (s.uses uri parent scope) n.all) :
    TypedIn env (s.uses uri parent scope) (Node.allIn (s.inChoice uri choice n)) := by
  have alone : Node.allIn [n] = n.all := by simp [Node.allIn]
  cases s with
  | other keyword argument => exact .nil
  | named name description construct children =>
    cases construct with
    | case =>
      rw [Statement.inChoice, alone]
      exact h
    | container | list _ | leaf _ | leafList _ | choice | typedef _ | identity _ =>
      simp only [Statement.inChoice]
      rw [Node.allIn, Node.all_eq, Node.allIn, List.append_nil, alone]
      exact h.cons rfl

mutual

theorem outcome_resolveStatement (h : d.surroundings = .ok env) (uri : String) :
    ∀ (s : Statement) (parent : List String) (scope : Scope), d.Place uri scope (s.uses uri parent scope) s.all →
    (∀ t, s.typedef? parent = some t → t ∈ scope.headD []) →
    Outcome (resolveStatement env (afresh env) uri parent scope s)
      (fun n => TypedIn env (s.uses uri parent scope) n.all) d.Fault
  | .other keyword argument, parent, scope, _, _ => by
    unfold resolveStatement
    refine .pure ?_
    rw [Node.all_eq]
    exact .nil
  | .named name description construct children, parent, scope, hp, hhoused => by
    have hsub : Statement.allIn children ⊆ (Statement.named name description construct children).all := by
      rw [Statement.all]
      exact List.subset_cons_self _ _
    have hkind := fun nodes => outcome_resolveConstruct h nodes hp.covers hp.distinct hhoused
    rw [resolveStatement_named]
    unfold Statement.uses at hp ⊢
    cases construct with
    | choice =>
      have hcases : ∀ s ∈ children, s.isTypedef = false := by
        simpa [Statement.casesPlain] using hp.plain _ (Statement.mem_all_self _)
      have hnodes := outcome_resolveCases h uri children (parent ++ [name]) scope ⟨hp.covers, hp.distinct, hp.uses,
        fun s hs => hp.plain s (hsub hs)⟩ hcases
      exact hnodes.bind fun nodes _ hnodes => (hkind nodes).bind fun kind _ hkind => .pure (typedIn_inner hnodes hkind)
    | container | list key | case =>
      simp only [resolveBelow, bind_assoc]
      refine outcome_openFrame.bind fun frame _ hframe => ?_
      obtain ⟨rfl, hdistinct⟩ := hframe
      have hnodes := outcome_resolveStatements h uri children (parent ++ [name]) _ (hp.inner hsub hdistinct)
        fun t ht => ht
      exact hnodes.bind fun nodes _ hnodes => (hkind nodes).bind fun kind _ hkind => .pure (typedIn_inner hnodes hkind)
    | leaf type | leafList type =>
      refine (hkind []).bind fun kind _ hkind => .pure ?_
      obtain ⟨t, ht, rfl⟩ := hkind
      exact typedIn_use ht hp.distinct fun x hx => by cases hx
    | typedef type =>
      refine (hkind []).bind fun kind _ hkind => .pure ?_
      obtain ⟨t, ht, rfl⟩ := hkind
      refine typedIn_use ht hp.distinct fun x hx => ?_
      cases hx
      exact hhoused _ rfl
    | identity bases => exact (hkind []).bind fun kind _ hkind => .pure (typedIn_inner .nil hkind)

theorem outcome_resolveStatements (h : d.surroundings = .ok env) (uri : String) :
    ∀ (ss : List Statement) (parent : List String) (scope : Scope),
    d.Place uri scope (usesIn uri parent scope ss) (Statement.allIn ss) →
    (∀ t ∈ declaredIn parent ss, t ∈ scope.headD []) →
    Outcome (resolveStatements env (afresh env) uri parent scope ss)
      (fun ns => TypedIn env (usesIn uri parent scope ss) (Node.allIn ns)) d.Fault
  | [], parent, scope, _, _ => by
    unfold resolveStatements
    exact .pure .nil
  | s :: ss, parent, scope, hp, hhoused => by
    rw [declaredIn_cons] at hhoused
    rw [usesIn, Statement.allIn] at hp
    rw [resolveStatements, usesIn]
    have hs := outcome_resolveStatement h uri s parent scope hp.left fun t ht =>
      hhoused t (List.mem_append_left _ (by simpa using ht))
    have hss := outcome_resolveStatements h uri ss parent scope hp.right fun t ht =>
      hhoused t (List.mem_append_right _ ht)
    refine hs.bind fun n _ hn => hss.bind fun ns _ hns => .pure ?_
    rw [Node.allIn]
    exact hn.append hns

theorem outcome_resolveCases (h : d.surroundings = .ok env) (uri : String) :
    ∀ (ss : List Statement) (choice : List String) (scope : Scope),
    d.Place uri scope (usesInChoice uri choice scope ss) (Statement.allIn ss) →
    (∀ s ∈ ss, s.isTypedef = false) →
    Outcome (resolveCases env (afresh env) uri choice scope ss)
      (fun ns => TypedIn env (usesInChoice uri choice scope ss) (Node.allIn ns)) d.Fault
  | [], choice, scope, _, _ => by
    simp only [resolveCases]
    exact .pure .nil
  | s :: ss, choice, scope, hp, hplain => by
    rw [usesInChoice, Statement.allIn] at hp
    rw [resolveCases_cons, usesInChoice]
    have hs := outcome_resolveStatement h uri s _ scope hp.left fun t ht => by
      rw [Statement.typedef?_eq_none (hplain s List.mem_cons_self)] at ht
      cases ht
    have hss := outcome_resolveCases h uri ss choice scope hp.right fun s hs => hplain s (List.mem_cons_of_mem _ hs)
    refine hs.bind fun n _ hn => hss.bind fun ns _ hns => .pure ?_
    rw [Node.allIn_append]
    exact (typedIn_inChoice hn).append hns

end

/-! ## Documents -/

theorem outcome_surroundings : Outcome d.surroundings (fun _ => True) d.Fault := by
  have along : ∀ (ms : List ModuleDecl) (env : Surroundings),
      Outcome (ms.foldlM Surroundings.add env) (fun _ => True) d.Fault := by
    intro ms
    induction ms with
    | nil => exact fun _ => .pure trivial
    | cons m ms ih =>
      intro env
      rw [List.foldlM_cons]
      have hadd : Outcome (env.add m) (fun _ => True) d.Fault := outcome_openFrame.bind fun _ _ _ => .pure trivial
      exact hadd.bind fun env' _ _ => ih env'
  exact along d.modules _

theorem place_top (h : d.surroundings = .ok env) (hd : d.Apart) (hplain : d.CasesPlain) {m : ModuleDecl}
    (hm : m ∈ d.modules) : d.Place m.namespaceUri [declaredIn [] m.statements] m.uses (Statement.allIn m.statements) where
  covers := covers_top hm
  distinct := fun _ hf => List.mem_singleton.1 hf ▸ (frames_of_surroundings h hd hm).2
  uses := uses_subset hm
  plain := hplain m hm

theorem outcome_resolveModule (h : d.surroundings = .ok env) (hd : d.Apart) (hplain : d.CasesPlain) {m : ModuleDecl}
    (hm : m ∈ d.modules) :
    Outcome (resolveModule env (afresh env) m) (fun m' => TypedIn env m.uses m'.nodes) d.Fault := by
  unfold resolveModule
  rw [(frames_of_surroundings h hd hm).1]
  have hnodes := outcome_resolveStatements h m.namespaceUri m.statements [] _ (place_top h hd hplain hm) fun t ht => ht
  exact hnodes.bind fun nodes _ hnodes => .pure hnodes

/-- **Every use in a document has the type of static scope, or resolution fails with a fault of the document.** -/
theorem outcome_resolve (hd : d.Apart) (hplain : d.CasesPlain) :
    Outcome d.resolve (fun t => ∃ env, d.surroundings = .ok env ∧ TypedIn env d.uses t.nodes) d.Fault := by
  rw [Document.resolve_eq]
  refine outcome_surroundings.bind fun env (h : d.surroundings = .ok env) _ => ?_
  have along : ∀ ms ⊆ d.modules, Outcome (ms.mapM (resolveModule env (afresh env)))
      (fun ms' => TypedIn env (ms.flatMap ModuleDecl.uses) (ms'.flatMap Module.nodes)) d.Fault := by
    intro ms hms
    induction ms with
    | nil => exact .pure .nil
    | cons m ms ih =>
      obtain ⟨hm, hms⟩ := List.cons_subset.1 hms
      rw [List.mapM_cons]
      refine (outcome_resolveModule h hd hplain hm).bind fun m' _ hm' => (ih hms).bind fun ms' _ hms' => .pure ?_
      rw [List.flatMap_cons, List.flatMap_cons]
      exact hm'.append hms'
  exact (along d.modules (List.Subset.refl _)).bind fun ms _ hms => .pure ⟨env, h, hms⟩

theorem use_has_iff (h : d.surroundings = .ok env) (hd : d.Apart) {u : Use} (hs : u.scope.Distinct) {t : TypeDef} :
    u.Has d.Binds t ↔ u.Has env.Binds t := by
  unfold Use.Has
  cases u.construct with
  | leaf type | leafList type => exact denotes_iff h hd hs
  | typedef type => exact has_iff h hd hs
  | container | list _ | choice | case | identity _ => exact Iff.rfl

theorem use_has_unique {binds : Binding} (hb : binds.Functional) {u : Use} {t t' : TypeDef} (h : u.Has binds t)
    (h' : u.Has binds t') : t = t' := by
  unfold Use.Has at h h'
  cases hc : u.construct with
  | leaf type | leafList type =>
    rw [hc] at h h'
    exact h.unique hb h'
  | typedef type =>
    rw [hc] at h h'
    exact Declaration.Has.unique hb h h'
  | container | list _ | choice | case | identity _ =>
    rw [hc] at h
    exact h.elim

/-- **Typedefs resolve by static scope.** The nodes with a type in the tree of a document are those of its leaves, leaf-lists
and typedefs, one after the other, and each has the one type that its use has by static scope. -/
theorem typed_of_resolve (hd : d.Apart) (hplain : d.CasesPlain) {t : Tree} (h : d.resolve = .ok t) :
    List.Forall₂ (fun (u : Use) (n : Node) => n.head = ⟨⟨u.uri, u.name⟩, u.path, u.description⟩ ∧
      ∃ type, n.kind = u.kind type ∧ ∀ type', u.Has d.Binds type' ↔ type' = type) d.uses (t.nodes.filter Node.isTyped) := by
  obtain ⟨env, henv, htyped⟩ := (outcome_resolve hd hplain).answered h
  refine htyped.imp fun u n hn => ?_
  obtain ⟨type, htype, hkind⟩ := hn.type
  have hiff := fun type' => use_has_iff (t := type') henv hd hn.distinct
  exact ⟨hn.head, type, hkind, fun type' => ⟨fun h' => use_has_unique env.binds_functional ((hiff type').1 h') htype,
    fun heq => heq ▸ (hiff type).2 htype⟩⟩

end Document

end YangDesign.Schema
