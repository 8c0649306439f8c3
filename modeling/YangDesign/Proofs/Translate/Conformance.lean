/-
Objects conform to their types.

`translate_conforms`: an object of a design has an object type of the design as its type, and the same members apart from the
data; and at every depth a member that is filled has the same members as its type (`Member.Conforms`).

Objects and types are made by different runs over the same nodes. Both hold the members for the children of a node, and apart
from the data these depend on nothing but the names (`outline_membersFor`).
-/
import YangDesign.Proofs.Translate.Correspondence

namespace YangDesign.Translate

open Design Instance Schema Progress

variable {tree : Tree} {p : Progress}

/-! ## Conformance -/

/-- a member of an object that is a variable, or empty, or has the members of its type -/
inductive Conforms (doc : ModelDocument) : Member → Prop where
  | value (labels : Labels) (type : Option SymbolicName) (rank : ValueRank) (access : Option AccessLevel)
    (default : Option DefaultValue) : Conforms doc (.variableNode labels type rank access default)
  | empty (labels : Labels) (type : Option SymbolicName) (references : List Reference) :
    Conforms doc (.objectNode labels type references [])
  | filled {labels : Labels} {type : SymbolicName} {references : List Reference} {children : List Member}
    {d : Definition} : doc.get? type = some d → d.kind = .objectType → children.map outline = d.children.map outline →
    (∀ m ∈ children, Conforms doc m) → Conforms doc (.objectNode labels (some type) references children)

/-- an object with the members of its type, each of which conforms -/
structure ObjectConforms (doc : ModelDocument) (type : Option SymbolicName) (children : List Member) : Prop where
  typed : ∃ t d, type = some t ∧ doc.get? t = some d ∧ d.kind = .objectType ∧
    children.map outline = d.children.map outline
  below : ∀ m ∈ children, Conforms doc m

/-! ## Members -/

namespace Traced

/-- members for the children of a node have the outline of the type for these -/
theorem outline_members (h : Traced tree p) {n : Node} (hn : n ∈ tree.nodes) {r : TypeRole} (hr : r ∈ typeRoles n.kind)
    (hm : r.holdsMembers = true) (ds : List DataNode) (owner : Option Enclosing) :
    ∃ d, p.document.get? (p.namer.typeName r n.head) = some d ∧ d.kind = .objectType ∧
      (membersFor p.namer ds owner n.children).map outline = d.children.map outline := by
  obtain ⟨d, base, hget, hcontent⟩ := h.members hn hr hm
  refine ⟨d, hget, by rw [Definition.kind, hcontent]; rfl, ?_⟩
  rw [Definition.children, hcontent, outline_membersFor, outline_membersFor]

mutual

/-- the member for a node conforms, whatever it is filled from -/
theorem conforms_memberFor (h : Traced tree p) : ∀ (n : Node), n ∈ tree.nodes → ∀ (ds : List DataNode)
    (owner : Option Enclosing) {m : Member}, memberFor p.namer ds owner n = some m → Conforms p.document m
  | ⟨head, kind, children⟩, hn, ds, owner, m, hm => by
    cases kind with
    | container =>
      simp only [memberFor, Option.some.injEq] at hm
      subst hm
      split
      · rename_i cs e _
        obtain ⟨d, hget, hkind, houtline⟩ := h.outline_members hn (r := .container) List.mem_cons_self rfl cs _
        exact .filled hget hkind houtline (h.conforms_membersFor children (fun c hc => Tree.child_mem_nodes hn hc) cs _)
      · exact .empty _ _ _
    | list | choice =>
      simp only [memberFor, Option.some.injEq] at hm
      subst hm
      exact .empty _ _ _
    | leaf type | leafList type =>
      cases type with
      | none => simp [memberFor] at hm
      | some t =>
        simp only [memberFor, Option.some.injEq] at hm
        subst hm
        exact .value _ _ _ _ _
    | case | typedef | identity | other => simp [memberFor] at hm

theorem conforms_membersFor (h : Traced tree p) : ∀ (ns : List Node), (∀ n ∈ ns, n ∈ tree.nodes) →
    ∀ (ds : List DataNode) (owner : Option Enclosing), ∀ m ∈ membersFor p.namer ds owner ns, Conforms p.document m
  | [], _, ds, owner, m, hm => by
    rw [membersFor] at hm
    cases hm
  | n :: ns, hns, ds, owner, m, hm => by
    obtain ⟨hn, htail⟩ := List.forall_mem_cons.1 hns
    rw [membersFor, List.mem_append] at hm
    rcases hm with hm | hm
    · exact h.conforms_memberFor n hn ds owner (Option.mem_toList.1 hm)
    · exact h.conforms_membersFor ns htail ds owner m hm

end

end Traced

/-! ## Objects -/

/-- the definition of an object that is filled for the children of a node, with the type that holds these -/
def FilledFor (nm : Namer) (tree : Tree) (d : Definition) : Prop :=
  ∃ n ∈ tree.nodes, ∃ r ∈ typeRoles n.kind, r.holdsMembers = true ∧ ∃ references ds owner,
    d.content = .object (some (nm.typeName r n.head)) references (membersFor nm ds owner n.children)

/-- all objects in stock are filled for nodes -/
def Stock.Filled (nm : Namer) (tree : Tree) (k : Stock) : Prop :=
  ∀ d ∈ k.objects, FilledFor nm tree d

theorem Stock.Filled.add {nm : Namer} {k : Stock} (h : k.Filled nm tree) {d : Definition} (hd : FilledFor nm tree d) :
    (k.add d).Filled nm tree := by
  intro e he
  rcases List.mem_append.1 he with he | he
  · exact h e he
  · rw [List.mem_singleton.1 he]
    exact hd

mutual

theorem Stock.Filled.fillNode {nm : Namer} : ∀ (n : Node), n ∈ tree.nodes → ∀ (ds : List DataNode) (owner : Option Enclosing)
    {k : Stock}, k.Filled nm tree → (Stock.fillNode nm ds owner n k).Filled nm tree
  | ⟨head, kind, children⟩, hn, ds, owner, k, h => by
    have hchildren : ∀ c ∈ children, c ∈ tree.nodes := fun c hc => Tree.child_mem_nodes hn hc
    cases kind with
    | container =>
      simp only [Stock.fillNode]
      split
      · exact Stock.Filled.fill children hchildren _ _ h
      · exact h
    | list keys =>
      simp only [Stock.fillNode]
      split
      · rename_i entries e _
        clear * - h hn hchildren
        induction entries generalizing k with
        | nil => exact h
        | cons entry entries ih =>
          refine ih _ (Stock.Filled.add ?_ ?_)
          · have hcount : (k.count (nm.ownName head)).Filled nm tree := h
            exact Stock.Filled.fill children hchildren _ _ hcount
          · exact ⟨_, hn, .element, List.mem_cons_of_mem _ List.mem_cons_self, rfl, _, _, _, rfl⟩
      · exact h
    | leaf | leafList | choice | case | typedef | identity | other => simpa only [Stock.fillNode] using h

theorem Stock.Filled.fill {nm : Namer} : ∀ (ns : List Node), (∀ n ∈ ns, n ∈ tree.nodes) → ∀ (ds : List DataNode)
    (owner : Option Enclosing) {k : Stock}, k.Filled nm tree → (Stock.fill nm ds owner ns k).Filled nm tree
  | [], _, ds, owner, k, h => by simpa only [Stock.fill] using h
  | n :: ns, hns, ds, owner, k, h => by
    obtain ⟨hn, htail⟩ := List.forall_mem_cons.1 hns
    rw [Stock.fill]
    exact Stock.Filled.fill ns htail ds owner (Stock.Filled.fillNode n hn ds owner h)

end

theorem Stock.Filled.top {nm : Namer} {k : Stock} (h : k.Filled nm tree) {n : Node} (hn : n ∈ tree.nodes)
    (ds : List DataNode) : (Stock.top nm ds k n).Filled nm tree := by
  unfold Stock.top
  split
  · rename_i cs hk _
    refine (Stock.Filled.fill n.children (fun c hc => Tree.child_mem_nodes hn hc) _ _ h).add ?_
    exact ⟨n, hn, .container, by rw [hk]; exact List.mem_cons_self, rfl, _, _, _, rfl⟩
  · exact h

theorem Stock.filled_foldl {nm : Namer} (ds : List DataNode) (ns : List Node) (hns : ∀ n ∈ ns, n ∈ tree.nodes) :
    (ns.foldl (Stock.top nm ds) .empty).Filled nm tree := by
  refine List.foldlRecOn ns _ (motive := Stock.Filled nm tree) (fun d hd => by cases hd) fun k hk n hn => ?_
  exact hk.top (hns n hn) ds

/-! ## Result -/

/-- **Objects conform to their types.** In the design for a schema with distinct names, whatever the data: the type of an object
is an object type of the design with the same members, and so, at every depth, is that of each member that is filled. -/
theorem translate_conforms {d : Document} (hresolve : d.resolve = .ok tree) (hd : tree.Distinct) {s : Settings}
    {data : List DataNode} {doc : ModelDocument} (h : translate s tree data = .ok doc) :
    ∀ o ∈ doc.definitions, ∀ type references children, o.content = .object type references children →
      ObjectConforms doc type children := by
  obtain ⟨p, hrun, rfl⟩ := translate_eq_ok_iff.1 h
  have hr := Document.resolve_resolved hresolve
  have htraced := traced_of_run hr hd hrun
  have hfilled : p.stock.Filled p.namer tree := by
    rw [(run_traced hr hd hrun).2]
    refine Stock.filled_foldl _ _ fun n hn => ?_
    obtain ⟨m, hm, hnm⟩ := List.mem_flatMap.1 hn
    exact Tree.statement_mem_nodes hm hnm
  intro o ho type references children hcontent
  have hobject : o ∈ p.stock.objects :=
    List.mem_filter.2 ⟨Array.mem_toList_iff.2 ho, by rw [Definition.kind, hcontent]; rfl⟩
  obtain ⟨n, hn, r, hrole, hm, references', ds, owner, hmade⟩ := hfilled o hobject
  cases hcontent.symm.trans hmade
  obtain ⟨e, hget, hkind, houtline⟩ := htraced.outline_members hn hrole hm ds owner
  exact ⟨⟨_, e, rfl, hget, hkind, houtline⟩,
    htraced.conforms_membersFor n.children (fun c hc => Tree.child_mem_nodes hn hc) ds owner⟩

/-- the mixed data make an object, which conforms -/
theorem mixedData_conforms : ∃ tree doc, mixedSchema.resolve = .ok tree ∧ tree.Distinct ∧
    translate (.default 0) tree mixedData = .ok doc ∧ ∃ o ∈ doc.definitions, ∃ type references children,
      o.content = .object type references children ∧ ObjectConforms doc type children := by
  obtain ⟨doc, hdoc, hobjects⟩ := translate_mixedData
  obtain ⟨o, ho⟩ : ∃ o, o ∈ doc.ofKind .object := List.exists_mem_of_length_pos (by rw [hobjects]; decide)
  obtain ⟨hmem, hkind⟩ := List.mem_filter.1 ho
  obtain ⟨type, references, children, hcontent⟩ : ∃ type references children,
      o.content = .object type references children := by
    rw [beq_iff_eq, Definition.kind] at hkind
    cases hc : o.content with
    | object type references children => exact ⟨_, _, _, rfl⟩
    | dataType | objectType | variableType | referenceType => rw [hc] at hkind; cases hkind
  have hdefinition := Array.mem_toList_iff.1 hmem
  exact ⟨mixedTree, doc, resolve_mixedSchema, mixedTree_distinct, hdoc, o, hdefinition, type, references, children, hcontent,
    translate_conforms resolve_mixedSchema mixedTree_distinct hdoc o hdefinition type references children hcontent⟩

end YangDesign.Translate
