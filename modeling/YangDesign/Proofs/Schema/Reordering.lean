/-
Resolution does not depend on the order of statements.

A document is reordered where the statements of any of its lists, or its modules, stand in another order
(`Document.Reordered`). If labels keep their meaning (`Document.SameLabels`), names denote what they denoted before, in scopes
that are alike (`Scope.Alike`), so references denote the same types (`denotes_alike`). What holds of each statement of a list
goes over to the list in any order (`Gathers.reordered`), and a reordered document resolves to the reordered tree
(`Document.resolve_reordered`).

The last module with a label counts. Labels thus keep their meaning while the modules stay in their order, and in any order
exactly if no label belongs to modules of two namespaces (`Document.sameLabels_iff`).

`Document.resolve_static_scope` puts this beside the types of static scope, and beside resolution after any typedefs have been
asked for. `Document.captured_reversed` has two modules that share a label, and a leaf whose type hangs on their order.
-/
import YangDesign.Proofs.Schema.Cycles
import YangDesign.Proofs.Schema.Prefixes

namespace YangDesign.Schema

open Relation

/-! ## Other orders -/

mutual

/-- a statement with the lists in it in another order -/
def Statement.Reordered : Statement → Statement → Prop
  | .other keyword argument, t => t = .other keyword argument
  | .named name description construct children, t =>
    ∃ children', t = .named name description construct children' ∧ ReorderedIn children children'

/-- a statement list in another order -/
def ReorderedIn : List Statement → List Statement → Prop
  | [], ts => ts = []
  | s :: ss, ts => ∃ t ts', ts.Perm (t :: ts') ∧ s.Reordered t ∧ ReorderedIn ss ts'

end

mutual

/-- a node with the nodes below it in another order -/
def Node.Reordered : Node → Node → Prop
  | ⟨head, kind, children⟩, m => ∃ children', m = ⟨head, kind, children'⟩ ∧ Node.ReorderedIn children children'

/-- some nodes in another order -/
def Node.ReorderedIn : List Node → List Node → Prop
  | [], ms => ms = []
  | n :: ns, ms => ∃ m ms', ms.Perm (m :: ms') ∧ n.Reordered m ∧ Node.ReorderedIn ns ms'

end

/-- a module with its statements in another order -/
structure ModuleDecl.Reordered (m m' : ModuleDecl) : Prop where
  name : m'.name = m.name
  namespaceUri : m'.namespaceUri = m.namespaceUri
  modulePrefix : m'.modulePrefix = m.modulePrefix
  description : m'.description = m.description
  statements : ReorderedIn m.statements m'.statements

/-- a document with its modules and their statements in another order -/
def Document.Reordered (d d' : Document) : Prop :=
  ∃ ms, List.Forall₂ ModuleDecl.Reordered d.modules ms ∧ ms.Perm d'.modules

/-- a resolved module with its nodes in another order -/
structure Module.Reordered (m m' : Module) : Prop where
  name : m'.name = m.name
  namespaceUri : m'.namespaceUri = m.namespaceUri
  modulePrefix : m'.modulePrefix = m.modulePrefix
  description : m'.description = m.description
  statements : Node.ReorderedIn m.statements m'.statements

/-- a tree with its modules and their nodes in another order -/
def Tree.Reordered (t t' : Tree) : Prop :=
  ∃ ms, List.Forall₂ Module.Reordered t.modules ms ∧ ms.Perm t'.modules

mutual

theorem Statement.Reordered.refl : ∀ s : Statement, s.Reordered s
  | .other _ _ => rfl
  | .named _ _ _ children => ⟨children, rfl, ReorderedIn.refl children⟩

theorem ReorderedIn.refl : ∀ ss : List Statement, ReorderedIn ss ss
  | [] => rfl
  | s :: ss => ⟨s, ss, List.Perm.refl _, Statement.Reordered.refl s, ReorderedIn.refl ss⟩

end

theorem ModuleDecl.Reordered.refl (m : ModuleDecl) : m.Reordered m :=
  ⟨rfl, rfl, rfl, rfl, .refl _⟩

theorem ReorderedIn.of_perm {ss ts : List Statement} (h : ts.Perm ss) : ReorderedIn ss ts := by
  cases ss with
  | nil => exact List.perm_nil.1 h
  | cons s ss => exact ⟨s, ss, h, .refl s, .refl ss⟩

theorem Node.ReorderedIn.perm {ns ms ms' : List Node} (h : Node.ReorderedIn ns ms) (hp : ms'.Perm ms) :
    Node.ReorderedIn ns ms' := by
  cases ns with
  | nil =>
    obtain rfl : ms = [] := h
    exact List.perm_nil.1 hp
  | cons n ns =>
    obtain ⟨m, ms1, hperm, hn, hns⟩ := h
    exact ⟨m, ms1, hp.trans hperm, hn, hns⟩

theorem Node.ReorderedIn.append {ns ns' ms ms' : List Node} (h : Node.ReorderedIn ns ms) (h' : Node.ReorderedIn ns' ms') :
    Node.ReorderedIn (ns ++ ns') (ms ++ ms') := by
  induction ns generalizing ms with
  | nil =>
    obtain rfl : ms = [] := h
    exact h'
  | cons n ns ih =>
    obtain ⟨m, ms1, hperm, hn, hns⟩ := h
    exact ⟨m, ms1 ++ ms', hperm.append_right ms', hn, ih hns⟩

theorem Node.ReorderedIn.singleton {n m : Node} (h : n.Reordered m) : Node.ReorderedIn [n] [m] :=
  ⟨m, [], List.Perm.refl _, h, rfl⟩

theorem Node.Reordered.head {n m : Node} (h : n.Reordered m) : m.head = n.head ∧ m.kind = n.kind := by
  obtain ⟨head, kind, children⟩ := n
  obtain ⟨children', rfl, -⟩ := h
  exact ⟨rfl, rfl⟩

theorem leafNames_subset {ns ms : List Node} (h : Node.ReorderedIn ns ms) : leafNames ns ⊆ leafNames ms := by
  induction ns generalizing ms with
  | nil => exact List.nil_subset _
  | cons n ns ih =>
    obtain ⟨m, ms1, hperm, hn, hns⟩ := h
    have hmem : ∀ x, x ∈ leafNames ms ↔ x ∈ leafNames (m :: ms1) := fun x => (hperm.filterMap _).mem_iff
    intro x hx
    rw [hmem]
    unfold leafNames at hx ⊢
    obtain ⟨hhead, hkind⟩ := hn.head
    rw [List.mem_filterMap] at hx ⊢
    obtain ⟨c, hc, hcx⟩ := hx
    rcases List.mem_cons.1 hc with rfl | hc
    · refine ⟨m, List.mem_cons_self, ?_⟩
      rw [hkind, Node.label, hhead]
      exact hcx
    · obtain ⟨c', hc', hcx'⟩ := List.mem_filterMap.1 (ih hns (List.mem_filterMap.2 ⟨c, hc, hcx⟩))
      exact ⟨c', List.mem_cons_of_mem _ hc', hcx'⟩

theorem Statement.Reordered.typedef? {s t : Statement} (h : s.Reordered t) (path : List String) :
    t.typedef? path = s.typedef? path := by
  cases s with
  | other keyword argument =>
    obtain rfl : t = .other keyword argument := h
    rfl
  | named name description construct children =>
    obtain ⟨children', rfl, -⟩ := h
    cases construct <;> rfl

/-- what statements keep in another order, lists keep up to the order -/
theorem ReorderedIn.filterMap {α : Type} {f : Statement → Option α} (hf : ∀ s t, s.Reordered t → f t = f s)
    {ss ts : List Statement} (h : ReorderedIn ss ts) : (ss.filterMap f).Perm (ts.filterMap f) := by
  induction ss generalizing ts with
  | nil =>
    obtain rfl : ts = [] := h
    exact List.Perm.refl _
  | cons s ss ih =>
    obtain ⟨t, ts', hperm, hs, hss⟩ := h
    refine List.Perm.trans ?_ (hperm.filterMap f).symm
    rw [List.filterMap_cons, List.filterMap_cons, hf s t hs]
    cases f s with
    | none => exact ih hss
    | some a => exact (ih hss).cons a

theorem ReorderedIn.declaredIn {ss ts : List Statement} (h : ReorderedIn ss ts) (path : List String) :
    (Schema.declaredIn path ss).Perm (Schema.declaredIn path ts) :=
  h.filterMap fun _ _ hs => hs.typedef? path

theorem ModuleDecl.Reordered.identities {m m' : ModuleDecl} (h : m.Reordered m') : m.identities.Perm m'.identities := by
  unfold ModuleDecl.identities
  rw [h.namespaceUri]
  refine h.statements.filterMap fun s t hs => ?_
  cases s with
  | other keyword argument =>
    obtain rfl : t = .other keyword argument := hs
    rfl
  | named name description construct children =>
    obtain ⟨children', rfl, -⟩ := hs
    cases construct <;> rfl

/-! ## Alike scopes -/

/-- the same typedefs in any order, no name declared twice -/
structure Frame.Alike (f f' : Frame) : Prop where
  perm : f.Perm f'
  distinct : f.Distinct

/-- scopes whose frames are alike -/
abbrev Scope.Alike : Scope → Scope → Prop :=
  List.Forall₂ Frame.Alike

theorem Frame.Alike.distinct_right {f f' : Frame} (h : f.Alike f') : f'.Distinct := by
  have hnames : (f.map (·.name)).Perm (f'.map (·.name)) := h.perm.map _
  exact hnames.nodup_iff.1 h.distinct

theorem Frame.Alike.find? {f f' : Frame} (h : f.Alike f') (name : String) : f'.find? name = f.find? name := by
  cases hf : f.find? name with
  | some t =>
    have hname : t.name = name := by simpa using List.find?_some hf
    rw [← hname]
    exact h.distinct_right.find? (h.perm.subset (List.mem_of_find?_eq_some hf))
  | none =>
    rw [Frame.find?_eq_none_iff] at hf ⊢
    exact fun t ht => hf t (h.perm.symm.subset ht)

theorem lookUp_alike {name : String} {scope scope' s : Scope} {t : TypedefDecl} (h : Scope.Alike scope scope')
    (ht : lookUp name scope = some (t, s)) : ∃ s', lookUp name scope' = some (t, s') ∧ Scope.Alike s s' := by
  induction h with
  | nil => cases ht
  | @cons f f' fs fs' hf hfs ih =>
    unfold lookUp at ht ⊢
    rw [hf.find?]
    cases hfind : f.find? name with
    | some e =>
      rw [hfind] at ht
      cases ht
      exact ⟨f' :: fs', rfl, .cons hf hfs⟩
    | none =>
      rw [hfind] at ht
      exact ih ht

/-- surroundings that offer the same in any order -/
structure Surroundings.Alike (env env' : Surroundings) : Prop where
  namespaces : ∀ label, env'.namespaces.find? label = env.namespaces.find? label
  frames : ∀ uri, Frame.Alike ((env.frames.find? uri).getD []) ((env'.frames.find? uri).getD [])
  identities : ∀ q, q ∈ env'.identities ↔ q ∈ env.identities

section Alike

variable {env env' : Surroundings} (henv : env.Alike env')

include henv

theorem binds_alike {name uri : String} {scope scope' : Scope} {x : Declaration} (hs : Scope.Alike scope scope')
    (h : env.Binds name uri scope x) :
    ∃ s', env'.Binds name uri scope' ⟨x.typedef, x.uri, s'⟩ ∧ Scope.Alike x.scope s' := by
  obtain ⟨path, h⟩ := h
  rcases Surroundings.typedefOf_eq_ok_iff.1 h with ⟨huri, hx, hlabel⟩ | ⟨hne, hx, label, hname, hlabel⟩
  · obtain ⟨s', hs', halike⟩ := lookUp_alike hs hx
    refine ⟨s', ⟨path, Surroundings.typedefOf_eq_ok_iff.2 (.inl ⟨huri, hs', fun label hname => ?_⟩)⟩, halike⟩
    rw [henv.namespaces]
    exact hlabel label hname
  · obtain ⟨s', hs', halike⟩ := lookUp_alike (.cons (henv.frames x.uri) .nil) hx
    refine ⟨s', ⟨path, Surroundings.typedefOf_eq_ok_iff.2 (.inr ⟨hne, hs', label, hname, ?_⟩)⟩, halike⟩
    rw [henv.namespaces]
    exact hlabel

/-- **References denote the same types in alike scopes.** -/
theorem denotes_alike {ref : TypeRef} {uri : String} {owner : List String} {scope scope' : Scope} {t : TypeDef}
    (hs : Scope.Alike scope scope') (h : Denotes env.Binds ref uri owner scope t) :
    Denotes env'.Binds ref uri owner scope' t := by
  induction h generalizing scope' with
  | builtIn hbuilt henums hfit => exact .builtIn hbuilt henums hfit
  | typedef hnone hx _ henums hfit ih =>
    obtain ⟨s', hx', halike⟩ := binds_alike henv hs hx
    exact Denotes.typedef (x := ⟨_, _, s'⟩) hnone hx' (ih halike) henums hfit

theorem resolveBase_alike (uri : String) (path : List String) (name : String) :
    resolveBase env' uri path name = resolveBase env uri path name := by
  have hcontains : ∀ q, env'.identities.contains q = env.identities.contains q := by
    intro q
    rw [Bool.eq_iff_iff, List.contains_iff_mem, List.contains_iff_mem]
    exact henv.identities q
  have hnamespace : ∀ label, env'.namespaceOf label path = env.namespaceOf label path := by
    intro label
    rw [Surroundings.namespaceOf, Surroundings.namespaceOf, henv.namespaces]
  simp only [resolveBase, hcontains, hnamespace]

theorem has_alike {x : Declaration} {scope' : Scope} (hs : Scope.Alike x.scope scope') {t : TypeDef}
    (h : x.Has env.Binds t) : Declaration.Has env'.Binds ⟨x.typedef, x.uri, scope'⟩ t := by
  obtain ⟨inner, hinner, rfl⟩ := h
  exact ⟨inner, denotes_alike henv hs hinner, rfl⟩

theorem resolveConstruct_alike {uri name : String} {path : List String} {scope scope' : Scope}
    {children children' : List Node} {construct : Construct} {kind : NodeKind} (hs : Scope.Alike scope scope')
    (hc : Node.ReorderedIn children children')
    (h : resolveConstruct env (afresh env) uri path scope name children construct = .ok kind) :
    resolveConstruct env' (afresh env') uri path scope' name children' construct = .ok kind := by
  unfold resolveConstruct at h ⊢
  cases construct with
  | container | choice | case => exact h
  | list key =>
    obtain ⟨⟨⟩, hkeys, h⟩ := ok_of_bind h
    refine bind_eq_ok_iff.2 ⟨(), checkKeys_eq_ok_iff.2 fun k hk => ?_, h⟩
    exact leafNames_subset hc (checkKeys_eq_ok_iff.1 hkeys k hk)
  | leaf type | leafList type =>
    obtain ⟨t, ht, h⟩ := ok_of_bind h
    refine bind_eq_ok_iff.2 ⟨t, ?_, h⟩
    exact typeOfRef_afresh_eq_ok_iff.2 (denotes_alike henv hs (typeOfRef_afresh_eq_ok_iff.1 ht))
  | typedef type =>
    have hhead : (scope'.headD []).find? name = (scope.headD []).find? name := by
      cases hs with
      | nil => rfl
      | cons hf _ => exact hf.find? name
    dsimp only at h ⊢
    rw [hhead]
    split at h
    · rename_i x hx
      obtain ⟨t, ht, h⟩ := ok_of_bind h
      refine bind_eq_ok_iff.2 ⟨t, ?_, h⟩
      exact (afresh_eq_ok_iff (Frame.housed_of_find? (hhead.trans hx))).2
        (has_alike henv hs ((afresh_eq_ok_iff (Frame.housed_of_find? hx)).1 ht))
    · cases h
  | identity bases =>
    rw [funext (resolveBase_alike henv uri path)]
    exact h

end Alike

/-! ## Lists in any order -/

/-- a walk over a list that puts together what a step finds for each item -/
structure Gathers {α β : Type} (walk : List α → Resolved (List β)) (step : α → Resolved (List β)) : Prop where
  nil : walk [] = .ok []
  cons : ∀ s ss ns, walk (s :: ss) = .ok ns ↔ ∃ a b, step s = .ok a ∧ walk ss = .ok b ∧ ns = a ++ b

section Gathers

variable {env : Surroundings} {typeOf : Declaration → Resolved TypeDef} {uri : String} {parent : List String}
  {scope : Scope}

theorem gathers_resolveStatements : Gathers (resolveStatements env typeOf uri parent scope)
    fun s => return [← resolveStatement env typeOf uri parent scope s] where
  nil := by
    unfold resolveStatements
    rfl
  cons := fun s ss ns => by
    rw [resolveStatements]
    cases resolveStatement env typeOf uri parent scope s <;> cases resolveStatements env typeOf uri parent scope ss <;>
      simp [pure, Except.pure, bind, Except.bind, eq_comm]

theorem gathers_resolveCases : Gathers (resolveCases env typeOf uri parent scope)
    fun s => return s.inChoice uri parent (← resolveStatement env typeOf uri (s.pathInChoice parent) scope s) where
  nil := by
    simp only [resolveCases]
    rfl
  cons := fun s ss ns => by
    rw [resolveCases_cons]
    cases resolveStatement env typeOf uri (s.pathInChoice parent) scope s <;>
      cases resolveCases env typeOf uri parent scope ss <;>
      simp [pure, Except.pure, bind, Except.bind, eq_comm]

theorem gathers_mapM {α β : Type} (f : α → Resolved β) : Gathers (List.mapM f) fun a => return [← f a] where
  nil := rfl
  cons := fun a as bs => by
    rw [List.mapM_cons]
    cases f a <;> cases as.mapM f <;> simp [pure, Except.pure, bind, Except.bind, eq_comm]

/-- what is gathered from a list is gathered from it in any order -/
theorem Gathers.perm {α β : Type} {walk : List α → Resolved (List β)} {step : α → Resolved (List β)}
    (h : Gathers walk step) {ss ts : List α} (hp : ss.Perm ts) {ns : List β} (hns : walk ss = .ok ns) :
    ∃ ms, walk ts = .ok ms ∧ ms.Perm ns := by
  induction hp generalizing ns with
  | nil => exact ⟨ns, hns, List.Perm.refl _⟩
  | cons s _ ih =>
    obtain ⟨a, b, ha, hb, rfl⟩ := (h.cons _ _ _).1 hns
    obtain ⟨b', hb', hperm⟩ := ih hb
    exact ⟨a ++ b', (h.cons _ _ _).2 ⟨a, b', ha, hb', rfl⟩, hperm.append_left a⟩
  | swap s t ss =>
    obtain ⟨a, b, ha, hb, rfl⟩ := (h.cons _ _ _).1 hns
    obtain ⟨a', b', ha', hb', rfl⟩ := (h.cons _ _ _).1 hb
    refine ⟨a' ++ (a ++ b'), (h.cons _ _ _).2 ⟨a', _, ha', (h.cons _ _ _).2 ⟨a, b', ha, hb', rfl⟩, rfl⟩, ?_⟩
    rw [← List.append_assoc, ← List.append_assoc]
    exact List.perm_append_comm.append_right b'
  | trans _ _ ih ih' =>
    obtain ⟨ms, hms, hperm⟩ := ih hns
    obtain ⟨ms', hms', hperm'⟩ := ih' hms
    exact ⟨ms', hms', hperm'.trans hperm⟩

variable {walk walk' : List Statement → Resolved (List Node)} {step step' : Statement → Resolved (List Node)}

/-- **Lists in any order.** If the steps find reordered nodes for reordered statements, the walks find reordered nodes for
reordered lists. -/
theorem Gathers.reordered (h : Gathers walk step) (h' : Gathers walk' step') {ss ts : List Statement}
    (hstep : ∀ s ∈ ss, ∀ t, s.Reordered t → ∀ a, step s = .ok a → ∃ b, step' t = .ok b ∧ Node.ReorderedIn a b)
    (hr : ReorderedIn ss ts) {ns : List Node} (hns : walk ss = .ok ns) :
    ∃ ms, walk' ts = .ok ms ∧ Node.ReorderedIn ns ms := by
  induction ss generalizing ts ns with
  | nil =>
    obtain rfl : ts = [] := hr
    cases h.nil.symm.trans hns
    exact ⟨[], h'.nil, rfl⟩
  | cons s ss ih =>
    obtain ⟨t, ts', hperm, hs, hss⟩ := hr
    obtain ⟨a, b, ha, hb, rfl⟩ := (h.cons _ _ _).1 hns
    obtain ⟨a', ha', hra⟩ := hstep s List.mem_cons_self t hs a ha
    obtain ⟨b', hb', hrb⟩ := ih (fun s hs => hstep s (List.mem_cons_of_mem _ hs)) hss hb
    obtain ⟨ms, hms, hpm⟩ := h'.perm hperm.symm ((h'.cons _ _ _).2 ⟨a', b', ha', hb', rfl⟩)
    exact ⟨ms, hms, (hra.append hrb).perm hpm⟩

end Gathers

/-! ## Reordered statements -/

section Statements

variable {env env' : Surroundings} {uri : String}

/-- in alike scopes a statement in another order resolves to its node in another order -/
def Statement.Keeps (env env' : Surroundings) (uri : String) (s : Statement) : Prop :=
  ∀ (t : Statement) (parent : List String) (scope scope' : Scope) (n : Node), s.Reordered t → Scope.Alike scope scope' →
    resolveStatement env (afresh env) uri parent scope s = .ok n →
    ∃ m, resolveStatement env' (afresh env') uri parent scope' t = .ok m ∧ n.Reordered m

theorem Statement.Reordered.pathInChoice {s t : Statement} (h : s.Reordered t) (choice : List String) :
    t.pathInChoice choice = s.pathInChoice choice := by
  cases s with
  | other keyword argument =>
    obtain rfl : t = .other keyword argument := h
    rfl
  | named name description construct children =>
    obtain ⟨children', rfl, -⟩ := h
    cases construct <;> rfl

theorem Statement.Reordered.inChoice {s t : Statement} (h : s.Reordered t) (choice : List String) {n m : Node}
    (hn : n.Reordered m) : Node.ReorderedIn (s.inChoice uri choice n) (t.inChoice uri choice m) := by
  cases s with
  | other keyword argument =>
    obtain rfl : t = .other keyword argument := h
    rfl
  | named name description construct children =>
    obtain ⟨children', rfl, -⟩ := h
    cases construct with
    | case => exact .singleton hn
    | container | list _ | leaf _ | leafList _ | choice | typedef _ | identity _ =>
      exact .singleton ⟨[m], rfl, .singleton hn⟩

theorem reordered_resolveStatements {ss ts : List Statement} (hall : ∀ s ∈ ss, s.Keeps env env' uri)
    (hr : ReorderedIn ss ts) {parent : List String} {scope scope' : Scope} (hs : Scope.Alike scope scope')
    {ns : List Node} (h : resolveStatements env (afresh env) uri parent scope ss = .ok ns) :
    ∃ ms, resolveStatements env' (afresh env') uri parent scope' ts = .ok ms ∧ Node.ReorderedIn ns ms := by
  refine gathers_resolveStatements.reordered gathers_resolveStatements (fun s hmem t hst a ha => ?_) hr h
  obtain ⟨n, hn, ha⟩ := ok_of_bind ha
  cases ha
  obtain ⟨m, hm, hnm⟩ := hall s hmem t _ _ _ n hst hs hn
  exact ⟨[m], bind_eq_ok_iff.2 ⟨m, hm, rfl⟩, .singleton hnm⟩

theorem reordered_resolveCases {ss ts : List Statement} (hall : ∀ s ∈ ss, s.Keeps env env' uri) (hr : ReorderedIn ss ts)
    {choice : List String} {scope scope' : Scope} (hs : Scope.Alike scope scope') {ns : List Node}
    (h : resolveCases env (afresh env) uri choice scope ss = .ok ns) :
    ∃ ms, resolveCases env' (afresh env') uri choice scope' ts = .ok ms ∧ Node.ReorderedIn ns ms := by
  refine gathers_resolveCases.reordered gathers_resolveCases (fun s hmem t hst a ha => ?_) hr h
  obtain ⟨n, hn, ha⟩ := ok_of_bind ha
  cases ha
  obtain ⟨m, hm, hnm⟩ := hall s hmem t _ _ _ n hst hs hn
  exact ⟨t.inChoice uri choice m, bind_eq_ok_iff.2 ⟨m, (hst.pathInChoice choice).symm ▸ hm, rfl⟩, hst.inChoice choice hnm⟩

mutual

theorem keeps_statement (henv : env.Alike env') : ∀ s : Statement, s.Keeps env env' uri
  | .other keyword argument => by
    intro t parent scope scope' n hst _ h
    obtain rfl : t = .other keyword argument := hst
    unfold resolveStatement at h ⊢
    cases h
    exact ⟨_, rfl, [], rfl, rfl⟩
  | .named name description construct children => by
    intro t parent scope scope' n hst hs h
    obtain ⟨children', rfl, hr⟩ := hst
    rw [resolveStatement_named] at h
    obtain ⟨nodes, hnodes, h⟩ := ok_of_bind h
    obtain ⟨kind, hkind, h⟩ := ok_of_bind h
    cases h
    have hbelow : ∃ nodes', resolveBelow env' (afresh env') uri (parent ++ [name]) scope' children' construct = .ok nodes' ∧
        Node.ReorderedIn nodes nodes' := by
      cases construct with
      | choice => exact reordered_resolveCases (keeps_statements henv children) hr hs hnodes
      | container | list _ | case =>
        obtain ⟨frame, hframe, hnodes⟩ := ok_of_bind hnodes
        obtain ⟨rfl, hdistinct⟩ := openFrame_eq_ok_iff.1 hframe
        have hframe : Frame.Alike _ _ := ⟨hr.declaredIn (parent ++ [name]), hdistinct⟩
        obtain ⟨nodes', hnodes', hrn⟩ :=
          reordered_resolveStatements (keeps_statements henv children) hr (.cons hframe hs) hnodes
        exact ⟨nodes', bind_eq_ok_iff.2 ⟨_, openFrame_eq_ok_iff.2 ⟨rfl, hframe.distinct_right⟩, hnodes'⟩, hrn⟩
      | leaf _ | leafList _ | typedef _ | identity _ =>
        cases hnodes
        exact ⟨[], rfl, rfl⟩
    obtain ⟨nodes', hnodes', hrn⟩ := hbelow
    refine ⟨⟨⟨⟨uri, name⟩, parent ++ [name], description⟩, kind, nodes'⟩, ?_, nodes', rfl, hrn⟩
    rw [resolveStatement_named]
    exact bind_eq_ok_iff.2 ⟨nodes', hnodes', bind_eq_ok_iff.2 ⟨kind, resolveConstruct_alike henv hs hrn hkind, rfl⟩⟩

theorem keeps_statements (henv : env.Alike env') : ∀ ss : List Statement, ∀ s ∈ ss, s.Keeps env env' uri
  | [] => fun s hs => by cases hs
  | s :: ss => List.forall_mem_cons.2 ⟨keeps_statement henv s, keeps_statements henv ss⟩

end

end Statements

/-! ## Labels -/

/-- a module has a label as its name or as its prefix -/
def ModuleDecl.HasLabel (m : ModuleDecl) (label : String) : Prop :=
  m.name = label ∨ m.modulePrefix = label

instance (m : ModuleDecl) (label : String) : Decidable (m.HasLabel label) :=
  inferInstanceAs (Decidable (_ ∨ _))

theorem ModuleDecl.Reordered.hasLabel_iff {m m' : ModuleDecl} (h : m.Reordered m') (label : String) :
    m'.HasLabel label ↔ m.HasLabel label := by
  rw [HasLabel, HasLabel, h.name, h.modulePrefix]

/-! ## Reordered documents -/

namespace Document

variable {d d' : Document} {env : Surroundings}

theorem Reordered.module (h : d.Reordered d') {m : ModuleDecl} (hm : m ∈ d.modules) :
    ∃ m' ∈ d'.modules, m.Reordered m' := by
  obtain ⟨ms, hms, hperm⟩ := h
  obtain ⟨m', hm', hr⟩ := forall₂_mem_left hms hm
  exact ⟨m', hperm.subset hm', hr⟩

theorem Reordered.module_of (h : d.Reordered d') {m' : ModuleDecl} (hm' : m' ∈ d'.modules) :
    ∃ m ∈ d.modules, m.Reordered m' := by
  obtain ⟨ms, hms, hperm⟩ := h
  exact forall₂_mem_left hms.flip (hperm.symm.subset hm')

theorem Reordered.apart (h : d.Reordered d') (hd : d.Apart) : d'.Apart := by
  obtain ⟨ms, hms, hperm⟩ := h
  have huris : ms.map (·.namespaceUri) = d.modules.map (·.namespaceUri) := by
    clear hperm hd
    generalize d.modules = ms0 at hms
    induction hms with
    | nil => rfl
    | cons hm _ ih => rw [List.map_cons, List.map_cons, hm.namespaceUri, ih]
  have hnodup : (ms.map (·.namespaceUri)).Nodup := huris ▸ hd
  exact (hperm.map _).nodup_iff.1 hnodup

theorem surroundings_of_distinct {ms : List ModuleDecl} (h : ∀ m ∈ ms, (declaredIn [] m.statements).Distinct)
    (env : Surroundings) : ∃ env', ms.foldlM Surroundings.add env = .ok env' := by
  induction ms generalizing env with
  | nil => exact ⟨env, rfl⟩
  | cons m ms ih =>
    obtain ⟨hm, hms⟩ := List.forall_mem_cons.1 h
    have hadd : ∃ env1, env.add m = .ok env1 := ⟨_, bind_eq_ok_iff.2 ⟨_, openFrame_eq_ok_iff.2 ⟨rfl, hm⟩, rfl⟩⟩
    obtain ⟨env1, hadd⟩ := hadd
    obtain ⟨env', henv'⟩ := ih hms env1
    exact ⟨env', by rw [List.foldlM_cons]; exact bind_eq_ok_iff.2 ⟨env1, hadd, henv'⟩⟩

/-! ## Labels in another order -/

/-- modules of two namespaces have no label in common -/
def LabelsApart (d : Document) : Prop :=
  ∀ m ∈ d.modules, ∀ n ∈ d.modules, n.HasLabel m.name ∨ n.HasLabel m.modulePrefix → m.namespaceUri = n.namespaceUri

instance (d : Document) : Decidable d.LabelsApart :=
  inferInstanceAs (Decidable (∀ m ∈ d.modules, _))

/-- each label stands for the same namespace in two documents -/
def SameLabels (d d' : Document) : Prop :=
  ∀ label, d'.namespaceOf? label = d.namespaceOf? label

theorem LabelsApart.namespace_eq (h : d.LabelsApart) {m n : ModuleDecl} (hm : m ∈ d.modules) (hn : n ∈ d.modules)
    {label : String} (hml : m.HasLabel label) (hnl : n.HasLabel label) : m.namespaceUri = n.namespaceUri := by
  rcases hml with rfl | rfl
  · exact h m hm n hn (.inl hnl)
  · exact h m hm n hn (.inr hnl)

theorem LabelsApart.reordered (h : d.LabelsApart) (hr : d.Reordered d') : d'.LabelsApart := by
  intro m' hm' n' hn' hlabel
  obtain ⟨m, hm, hmm⟩ := hr.module_of hm'
  obtain ⟨n, hn, hnn⟩ := hr.module_of hn'
  rw [hnn.hasLabel_iff, hnn.hasLabel_iff, hmm.name, hmm.modulePrefix] at hlabel
  rw [hmm.namespaceUri, hnn.namespaceUri]
  exact h m hm n hn hlabel

/-- where labels are apart, a label stands for the namespace of any module that has it -/
theorem namespaceOf?_eq_some_iff (h : d.LabelsApart) {label uri : String} :
    d.namespaceOf? label = some uri ↔ ∃ m ∈ d.modules, m.HasLabel label ∧ m.namespaceUri = uri := by
  have hfound : ∀ {m}, (d.modules.reverse.find? fun m => m.name == label || m.modulePrefix == label) = some m →
      m ∈ d.modules ∧ m.HasLabel label := fun hm =>
    ⟨List.mem_reverse.1 (List.mem_of_find?_eq_some hm), by simpa [ModuleDecl.HasLabel] using List.find?_some hm⟩
  unfold namespaceOf?
  rw [Option.map_eq_some_iff]
  constructor
  · rintro ⟨m, hm, rfl⟩
    exact ⟨m, (hfound hm).1, (hfound hm).2, rfl⟩
  · rintro ⟨m, hm, hlabel, rfl⟩
    have hsome : (d.modules.reverse.find? fun m => m.name == label || m.modulePrefix == label).isSome :=
      List.find?_isSome.2 ⟨m, List.mem_reverse.2 hm, by simpa [ModuleDecl.HasLabel] using hlabel⟩
    obtain ⟨n, hn⟩ := Option.isSome_iff_exists.1 hsome
    exact ⟨n, hn, h.namespace_eq (hfound hn).1 hm (hfound hn).2 hlabel⟩

/-- labels keep their meaning while the modules stay in their order -/
theorem sameLabels_of_forall₂ (h : List.Forall₂ ModuleDecl.Reordered d.modules d'.modules) : d.SameLabels d' := by
  intro label
  have hreverse := List.forall₂_reverse_iff.2 h
  unfold namespaceOf?
  generalize d.modules.reverse = ms at hreverse
  generalize d'.modules.reverse = ms' at hreverse
  induction hreverse with
  | nil => rfl
  | cons hm _ ih =>
    rw [List.find?_cons, List.find?_cons, hm.name, hm.modulePrefix]
    split
    · rw [Option.map_some, Option.map_some, hm.namespaceUri]
    · exact ih

/-- **Labels in every order.** Labels keep their meaning in whatever order the modules stand exactly if modules of two
namespaces have no label in common. -/
theorem sameLabels_iff : (∀ d', d.Reordered d' → d.SameLabels d') ↔ d.LabelsApart := by
  constructor
  · intro h
    -- any module can be put last, where its labels are its own
    have hlast : ∀ m ∈ d.modules, ∀ label, m.HasLabel label → d.namespaceOf? label = some m.namespaceUri := by
      intro m hm label hlabel
      obtain ⟨before, after, hsplit⟩ := List.append_of_mem hm
      have hperm : d.modules.Perm (before ++ after ++ [m]) :=
        hsplit ▸ List.perm_middle.trans (List.perm_append_singleton m _).symm
      have hr : d.Reordered ⟨before ++ after ++ [m]⟩ := ⟨d.modules, List.forall₂_same.2 fun m _ => .refl m, hperm⟩
      rw [← h _ hr label]
      exact (namespaceOf?_eq_iff rfl hlabel fun _ hx => by cases hx).2 fun _ hx => by cases hx
    intro m hm n hn hlabel
    rcases hlabel with hlabel | hlabel
    · exact Option.some.inj ((hlast m hm _ (.inl rfl)).symm.trans (hlast n hn _ hlabel))
    · exact Option.some.inj ((hlast m hm _ (.inr rfl)).symm.trans (hlast n hn _ hlabel))
  · intro h d' hr label
    refine Option.ext fun uri => ?_
    rw [namespaceOf?_eq_some_iff h, namespaceOf?_eq_some_iff (h.reordered hr)]
    constructor
    · rintro ⟨m', hm', hlabel, rfl⟩
      obtain ⟨m, hm, hmm⟩ := hr.module_of hm'
      exact ⟨m, hm, (hmm.hasLabel_iff label).1 hlabel, hmm.namespaceUri.symm⟩
    · rintro ⟨m, hm, hlabel, rfl⟩
      obtain ⟨m', hm', hmm⟩ := hr.module hm
      exact ⟨m', hm', (hmm.hasLabel_iff label).2 hlabel, hmm.namespaceUri⟩

/-! ## Resolution -/

/-- modules in another order offer the same, if labels keep their meaning -/
theorem Reordered.surroundings (hr : d.Reordered d') (hlabels : d.SameLabels d') (hd : d.Apart)
    (h : d.surroundings = .ok env) :
    ∃ env', d'.surroundings = .ok env' ∧ env.Alike env' := by
  have hframe : ∀ {m m'}, m ∈ d.modules → m.Reordered m' →
      Frame.Alike (declaredIn [] m.statements) (declaredIn [] m'.statements) :=
    fun hm hmm => ⟨hmm.statements.declaredIn [], (frames_of_surroundings h hd hm).2⟩
  have hdistinct : ∀ m' ∈ d'.modules, (declaredIn [] m'.statements).Distinct := by
    intro m' hm'
    obtain ⟨m, hm, hmm⟩ := hr.module_of hm'
    exact (hframe hm hmm).distinct_right
  obtain ⟨env', henv'⟩ := surroundings_of_distinct hdistinct ⟨.empty, .empty, []⟩
  refine ⟨env', henv', ⟨fun label => ?_, fun uri => ?_, fun q => ?_⟩⟩
  · rw [namespaces_of_surroundings henv', namespaces_of_surroundings h, hlabels]
  · cases hf : env.frames.find? uri with
    | some f =>
      obtain ⟨m, hm, rfl, rfl⟩ := mem_modules_of_frame h hf
      obtain ⟨m', hm', hmm⟩ := hr.module hm
      rw [← hmm.namespaceUri, (frames_of_surroundings henv' (hr.apart hd) hm').1]
      exact hframe hm hmm
    | none =>
      cases hf' : env'.frames.find? uri with
      | none => exact ⟨List.Perm.refl _, List.nodup_nil⟩
      | some f' =>
        obtain ⟨m', hm', rfl, rfl⟩ := mem_modules_of_frame henv' hf'
        obtain ⟨m, hm, hmm⟩ := hr.module_of hm'
        rw [hmm.namespaceUri, (frames_of_surroundings h hd hm).1] at hf
        cases hf
  · have hknown : ∀ {d : Document} {env : Surroundings}, d.surroundings = .ok env →
        (q ∈ env.identities ↔ ∃ m ∈ d.modules, q ∈ m.identities) := by
      intro d env h
      rw [identities_of_foldlM h, List.nil_append, List.mem_flatMap]
    rw [hknown henv', hknown h]
    constructor
    · rintro ⟨m', hm', hq⟩
      obtain ⟨m, hm, hmm⟩ := hr.module_of hm'
      exact ⟨m, hm, hmm.identities.mem_iff.2 hq⟩
    · rintro ⟨m, hm, hq⟩
      obtain ⟨m', hm', hmm⟩ := hr.module hm
      exact ⟨m', hm', hmm.identities.mem_iff.1 hq⟩

theorem reordered_resolveModule {env' : Surroundings} (henv : env.Alike env') {m m' : ModuleDecl} (hmm : m.Reordered m')
    {n : Module} (h : resolveModule env (afresh env) m = .ok n) :
    ∃ n', resolveModule env' (afresh env') m' = .ok n' ∧ n.Reordered n' := by
  obtain ⟨nodes, hnodes, h⟩ := ok_of_bind h
  cases h
  have hscope := List.Forall₂.cons (henv.frames m.namespaceUri) .nil
  obtain ⟨nodes', hnodes', hr⟩ :=
    reordered_resolveStatements (keeps_statements henv m.statements) hmm.statements hscope hnodes
  refine ⟨⟨m'.name, m'.namespaceUri, m'.modulePrefix, nodes', m'.description⟩, ?_,
    ⟨hmm.name, hmm.namespaceUri, hmm.modulePrefix, hmm.description, hr⟩⟩
  unfold resolveModule
  rw [hmm.namespaceUri]
  exact bind_eq_ok_iff.2 ⟨nodes', hnodes', rfl⟩

theorem reordered_mapM {env' : Surroundings} (henv : env.Alike env') {ms ms' : List ModuleDecl}
    (hms : List.Forall₂ ModuleDecl.Reordered ms ms') {ns : List Module}
    (h : ms.mapM (resolveModule env (afresh env)) = .ok ns) :
    ∃ ns', ms'.mapM (resolveModule env' (afresh env')) = .ok ns' ∧ List.Forall₂ Module.Reordered ns ns' := by
  induction hms generalizing ns with
  | nil =>
    cases h
    exact ⟨[], rfl, .nil⟩
  | cons hmm _ ih =>
    rw [List.mapM_cons] at h
    obtain ⟨n, hn, h⟩ := ok_of_bind h
    obtain ⟨ns1, hns1, h⟩ := ok_of_bind h
    cases h
    obtain ⟨n', hn', hr⟩ := reordered_resolveModule henv hmm hn
    obtain ⟨ns1', hns1', hrs⟩ := ih hns1
    refine ⟨n' :: ns1', ?_, .cons hr hrs⟩
    rw [List.mapM_cons]
    exact bind_eq_ok_iff.2 ⟨n', hn', bind_eq_ok_iff.2 ⟨ns1', hns1', rfl⟩⟩

/-- **A reordered document resolves to the reordered tree,** if labels keep their meaning. -/
theorem resolve_reordered (hd : d.Apart) (hr : d.Reordered d') (hlabels : d.SameLabels d') {t : Tree}
    (h : d.resolve = .ok t) : ∃ t', d'.resolve = .ok t' ∧ t.Reordered t' := by
  rw [Document.resolve_eq] at h ⊢
  obtain ⟨env, henv, h⟩ := ok_of_bind h
  obtain ⟨ns, hns, h⟩ := ok_of_bind h
  cases h
  obtain ⟨env', henv', halike⟩ := hr.surroundings hlabels hd henv
  obtain ⟨ms, hms, hperm⟩ := hr
  obtain ⟨ns1, hns1, hrs⟩ := reordered_mapM halike hms hns
  obtain ⟨ns', hns', hpn⟩ := (gathers_mapM _).perm hperm hns1
  exact ⟨⟨ns'⟩, bind_eq_ok_iff.2 ⟨env', henv', bind_eq_ok_iff.2 ⟨ns', hns', rfl⟩⟩, ns1, hrs, hpn.symm⟩

/-! ## Any order of requests -/

/-- the tree of a document, resolved after some typedefs have been asked for one after the other -/
def resolveAfter (asked : List Declaration) (d : Document) : Resolved Tree :=
  (do
    let env ← (d.surroundings : Resolved Surroundings)
    let _ ← asked.mapM (recalled env)
    return ⟨← d.modules.mapM (resolveModule env (recalled env))⟩ : Remembering Tree).run' .empty

theorem exists_ok_mapM {α β : Type} {f : α → Resolved β} {as : List α} (h : ∀ a ∈ as, ∃ b, f a = .ok b) :
    ∃ bs, as.mapM f = .ok bs := by
  induction as with
  | nil => exact ⟨[], rfl⟩
  | cons a as ih =>
    obtain ⟨⟨b, hb⟩, has⟩ := List.forall_mem_cons.1 h
    obtain ⟨bs, hbs⟩ := ih has
    exact ⟨b :: bs, by rw [List.mapM_cons, hb, hbs]; rfl⟩

/-- **What is asked for first does not matter.** -/
theorem resolveAfter_eq (hd : d.Apart) (hplain : d.CasesPlain) {t : Tree} (h : d.resolve = .ok t)
    {asked : List Declaration} (hasked : asked ⊆ d.typedefs) : d.resolveAfter asked = .ok t := by
  obtain ⟨env, henv, hhas⟩ := has_of_resolve hd hplain h
  have hfound : ∃ types, asked.mapM (afresh env) = .ok types := by
    refine exists_ok_mapM fun x hx => ?_
    obtain ⟨hhoused, -, type, htype⟩ := hhas x (hasked hx)
    exact ⟨type, (afresh_eq_ok_iff hhoused).2 htype⟩
  obtain ⟨types, hfound⟩ := hfound
  rw [Document.resolve_eq, Document.resolveWith, henv] at h
  have hasks : Repeats env (asked.mapM (recalled env)) (asked.mapM (afresh env)) :=
    .mapM fun x hx => repeats_afresh (hhas x (hasked hx)).1 0
  have hmodules : Repeats env (d.modules.mapM (resolveModule env (recalled env)))
      (d.modules.mapM (resolveModule env (afresh env))) :=
    .mapM fun m _ => repeats_resolveModule (fun x hx => repeats_afresh hx 0) m
  have hrun := (hasks.bind fun _ _ => hmodules.bind fun ms _ => .pure (Tree.mk ms)).run_empty
  rw [hfound] at hrun
  rw [resolveAfter, henv]
  exact hrun.trans h

/-- **Static scope.** The nodes with a type are those of the leaves, leaf-lists and typedefs of the document, and each has the
one type of its use by static scope. What is asked for first makes no difference, nor does the order of statements and modules
where labels keep their meaning. Labels do so while the modules stay in their order, and in every order exactly if modules of
two namespaces have no label in common. -/
theorem resolve_static_scope (hd : d.Apart) (hplain : d.CasesPlain) {t : Tree} (h : d.resolve = .ok t) :
    List.Forall₂ (fun (u : Use) (n : Node) => n.head = ⟨⟨u.uri, u.name⟩, u.path, u.description⟩ ∧
      ∃ type, n.kind = u.kind type ∧ ∀ type', u.Has d.Binds type' ↔ type' = type) d.uses (t.nodes.filter Node.isTyped) ∧
    (∀ d', d.Reordered d' → d.SameLabels d' → ∃ t', d'.resolve = .ok t' ∧ t.Reordered t') ∧
    (∀ d', List.Forall₂ ModuleDecl.Reordered d.modules d'.modules → d.SameLabels d') ∧
    ((∀ d', d.Reordered d' → d.SameLabels d') ↔ d.LabelsApart) ∧
    ∀ asked ⊆ d.typedefs, d.resolveAfter asked = .ok t :=
  ⟨typed_of_resolve hd hplain h, fun _ hr hlabels => resolve_reordered hd hr hlabels h, fun _ => sameLabels_of_forall₂,
    sameLabels_iff, fun _ => resolveAfter_eq hd hplain h⟩

/-- a module in which a typedef in a container hides one at the top, and asks for one of another module, all of one name -/
def upper : ModuleDecl :=
  ⟨"m", "urn:m", "m", none, [
    .named "level" none (.leaf (.mk "share" none none)) [],
    .named "box" none .container [
      .named "inner" none (.leaf (.mk "share" none none)) [],
      .named "share" none (.typedef (.mk "n:share" none none)) []],
    .named "share" none (.typedef (.mk "uint8" none none)) []]⟩

/-- the same module with the typedefs first -/
def upperEarly : ModuleDecl :=
  ⟨"m", "urn:m", "m", none, [
    .named "share" none (.typedef (.mk "uint8" none none)) [],
    .named "level" none (.leaf (.mk "share" none none)) [],
    .named "box" none .container [
      .named "share" none (.typedef (.mk "n:share" none none)) [],
      .named "inner" none (.leaf (.mk "share" none none)) []]]⟩

/-- the other module -/
def lower : ModuleDecl :=
  ⟨"n", "urn:n", "n", none, [.named "share" none (.typedef (.mk "string" none none)) []]⟩

/-- both modules -/
def shadowing : Document := ⟨[upper, lower]⟩

/-- both modules in the other order, with the typedefs first -/
def shadowingEarly : Document := ⟨[lower, upperEarly]⟩

/-- names of the built-in types that the nodes of a document end at -/
def kindNames (d : Document) : Resolved (List String) :=
  d.resolve.map fun t => t.nodes.filterMap fun n => n.kind.type?.map (·.kind.name)

example : shadowing.kindNames = .ok ["uint8", "string", "string", "uint8", "string"] := rfl

example : shadowingEarly.kindNames = .ok ["string", "uint8", "uint8", "string", "string"] := rfl

theorem reordered_upper : upper.Reordered upperEarly where
  name := rfl
  namespaceUri := rfl
  modulePrefix := rfl
  description := rfl
  statements := by
    unfold upper upperEarly
    have hbox := ReorderedIn.of_perm (List.Perm.swap (.named "inner" none (.leaf (.mk "share" none none)) [])
      (.named "share" none (.typedef (.mk "n:share" none none)) []) [])
    exact ⟨_, _, List.Perm.swap _ _ _, .refl _, _, _, List.Perm.swap _ _ _, ⟨_, rfl, hbox⟩, .refl _⟩

theorem reordered_shadowing : shadowing.Reordered shadowingEarly :=
  ⟨[upperEarly, lower], .cons reordered_upper (.cons (.refl lower) .nil), List.Perm.swap _ _ _⟩

theorem shadowing_static_scope : ∃ t, shadowing.Apart ∧ shadowing.CasesPlain ∧ shadowing.resolve = .ok t ∧
    shadowing.uses.length = 5 ∧ shadowing.Reordered shadowingEarly ∧ shadowing.SameLabels shadowingEarly ∧
    List.Forall₂ (fun (u : Use) (n : Node) => n.head = ⟨⟨u.uri, u.name⟩, u.path, u.description⟩ ∧
      ∃ type, n.kind = u.kind type ∧ ∀ type', u.Has shadowing.Binds type' ↔ type' = type) shadowing.uses
      (t.nodes.filter Node.isTyped) ∧
    (∃ t', shadowingEarly.resolve = .ok t' ∧ t.Reordered t') ∧
    shadowing.resolveAfter shadowing.typedefs.reverse = .ok t := by
  have hapart : shadowing.Apart := by decide
  have hplain : shadowing.CasesPlain := by decide
  cases h : shadowing.resolve with
  | error e =>
    have hok : shadowing.resolve.isOk = true := rfl
    rw [h] at hok
    cases hok
  | ok t =>
    obtain ⟨htyped, hreordered, -, hlabels, hafter⟩ := resolve_static_scope hapart hplain h
    have hsame : shadowing.SameLabels shadowingEarly := hlabels.2 (by decide) _ reordered_shadowing
    exact ⟨t, hapart, hplain, rfl, rfl, reordered_shadowing, hsame, htyped, hreordered _ reordered_shadowing hsame,
      hafter _ fun _ hx => List.mem_reverse.1 hx⟩

/-- where the prefix of a module is the name of another, their order makes a difference: it stands for the later one, from which
the leaf takes its type -/
theorem captured_reversed : captured.Apart ∧ captured.CasesPlain ∧ ¬captured.LabelsApart ∧
    captured.Reordered ⟨captured.modules.reverse⟩ ∧ captured.kindNames = .ok ["uint8", "string", "string"] ∧
    kindNames ⟨captured.modules.reverse⟩ = .ok ["string", "uint8", "uint8"] := by
  have hr : captured.Reordered ⟨captured.modules.reverse⟩ :=
    ⟨captured.modules, List.forall₂_same.2 fun m _ => .refl m, (List.reverse_perm _).symm⟩
  exact ⟨by decide, by decide, by decide, hr, rfl, rfl⟩

end Document

end YangDesign.Schema
