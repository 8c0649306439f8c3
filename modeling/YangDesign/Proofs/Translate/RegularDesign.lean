/-
The names of a design are regular.

`yields_memberOf`, `yields_membersOf` and `yields_caseTypesOf` follow the recursion of the translation over the nodes of a tree
whose constructs have the characters of identifiers in their names; the tree of a checked schema is one (`treeText_of_resolve`).
`translate_regular` is the result for whole designs.
-/
import YangDesign.Proofs.Translate.Regular

namespace YangDesign.Translate

open Design Instance Schema

variable {α : Type} {uri : String}

/-! ## Recursion -/

/-- the constructs of a tree have the characters of identifiers in their names, and choices have cases -/
structure TreeText (tree : Tree) : Prop where
  heads : ∀ n ∈ tree.nodes, n.kind.isNamed = true → HeadText n.head
  types : ∀ n ∈ tree.nodes, TypeText n.kind.type?
  cases : ∀ n ∈ tree.nodes, n.kind = .choice → ∀ c ∈ n.children, c.kind = .case

/-- the tree of a checked schema -/
theorem treeText_of_resolve {v : Value} {d : Document} {tree : Tree} (hcheck : Document.check v = .ok d)
    (hresolve : d.resolve = .ok tree) : TreeText tree := by
  obtain ⟨hr, hpaths⟩ := Document.resolved hresolve (Document.namesOf_of_check hcheck)
  have hlabel : ∀ n ∈ tree.nodes, n.label ∈ n.head.path :=
    Tree.nodes_induct (fun m hm n hn => by rw [(hr.top m hm n hn).2]; simp)
      fun n hn _ c hc => by rw [((hr.nodes n hn).below c hc).2]; simp
  refine ⟨fun n hn hk => ?_, fun n hn => (hpaths n hn).types, fun n hn => (hr.nodes n hn).cases⟩
  have hpath := (hpaths n hn).path hk
  exact ⟨hpath _ (hlabel n hn), hpath⟩

variable {tree : Tree}

mutual

/-- the member for a node, if it has one -/
theorem yields_memberOf (ht : TreeText tree) : ∀ n : Node, n ∈ tree.nodes → ∀ (data : List DataNode) (owner : Option Enclosing),
    (∀ e, owner = some e → e.Regular uri) →
    Yields uri (memberOf data owner n) fun m => Regular uri (Member.partsOf m.toList)
  | ⟨h, kind, children⟩, hn, data, owner, ho => by
    have hhead : kind.isNamed = true → HeadText h := ht.heads _ hn
    have htype : TypeText kind.type? := ht.types _ hn
    have hchildren : ∀ c ∈ children, c ∈ tree.nodes := fun c hc => Tree.child_mem_nodes hn hc
    have htypes : YieldsMembers uri (membersOf [] none children) :=
      yields_membersOf ht children hchildren [] none fun e he => by cases he
    have hmembers : ∀ ds e, e.Regular uri → YieldsMembers uri (membersOf ds (some e) children) := fun ds e he =>
      yields_membersOf ht children hchildren ds (some e) fun e' he' => by
        cases he'
        exact he
    have hnone : Regular uri (Member.partsOf (none : Option Member).toList) := regular_noMembers
    have hsome : ∀ m : Member, Regular uri m.parts → Regular uri (Member.partsOf (some m).toList) := by
      intro m hm
      rw [Option.toList_some, Member.partsOf]
      exact hm.append regular_noMembers
    cases kind with
    | other keyword argument =>
      simp only [memberOf]
      split
      · exact (yields_note _).bind fun _ _ => yields_pure hnone
      · exact yields_unsupported
    | list keys =>
      have hh := hhead rfl
      simp only [memberOf]
      refine (hh.yields_listTypesOf htypes).bind fun types htypes => ?_
      refine (hh.yields_listMember keys htypes.1).bind fun m hm => ?_
      split
      · exact (hh.yields_listElements htypes.2.1 htypes.2.2 (ho _ rfl) _ hmembers).bind fun _ _ => yields_pure (hsome m hm)
      · exact yields_pure (hsome m hm)
    | leaf type =>
      simp only [memberOf]
      exact ((hhead rfl).yields_leafMember htype data ho).map hsome
    | leafList type =>
      simp only [memberOf]
      exact ((hhead rfl).yields_leafListMember htype data owner).map hsome
    | container =>
      have hh := hhead rfl
      simp only [memberOf]
      refine (hh.yields_containerTypeOf htypes).bind fun type htype => ?_
      exact (hh.yields_containerMember htype data ho hmembers).map hsome
    | choice =>
      have hh := hhead rfl
      have hcases : ∀ name, name.Home uri → Yields uri (caseTypesOf name children) fun _ => True :=
        fun name hname => yields_caseTypesOf ht children (fun c hc => ⟨hchildren c hc, ht.cases _ hn rfl c hc⟩) hname
      simp only [memberOf]
      refine (hh.yields_choiceTypeOf hcases).bind fun type htype => ?_
      exact (hh.yields_choiceMember htype children data owner).map hsome
    | typedef type =>
      simp only [memberOf]
      exact (yields_translateTypedef htype).bind fun _ _ => yields_pure hnone
    | case | identity bases =>
      simp only [memberOf]
      exact yields_unsupported

theorem yields_membersOf (ht : TreeText tree) : ∀ ns : List Node, (∀ n ∈ ns, n ∈ tree.nodes) → ∀ (data : List DataNode)
    (owner : Option Enclosing), (∀ e, owner = some e → e.Regular uri) → YieldsMembers uri (membersOf data owner ns)
  | [], _, data, owner, _ => by
    simp only [membersOf]
    exact yields_pure regular_noMembers
  | n :: ns, hns, data, owner, ho => by
    obtain ⟨hn, hns⟩ := List.forall_mem_cons.1 hns
    simp only [membersOf]
    refine (yields_memberOf ht n hn data owner ho).bind fun m hm => ?_
    refine (yields_membersOf ht ns hns data owner ho).bind fun ms hms => yields_pure ?_
    rw [Member.partsOf_append]
    exact hm.append hms

theorem yields_caseTypesOf (ht : TreeText tree) : ∀ cs : List Node, (∀ c ∈ cs, c ∈ tree.nodes ∧ c.kind = .case) →
    ∀ {choice : SymbolicName}, choice.Home uri → Yields uri (caseTypesOf choice cs) fun _ => True
  | [], _, choice, _ => by
    simp only [caseTypesOf]
    exact yields_pure trivial
  | ⟨h, kind, children⟩ :: cs, hcs, choice, hchoice => by
    obtain ⟨⟨hn, hk⟩, htail⟩ := List.forall_mem_cons.1 hcs
    obtain rfl : kind = .case := hk
    have hmembers : YieldsMembers uri (membersOf [] none children) :=
      yields_membersOf ht children (fun c hc => Tree.child_mem_nodes hn hc) [] none fun e he => by cases he
    simp only [caseTypesOf]
    exact ((ht.heads _ hn rfl).yields_caseTypeOf hchoice hmembers).bind fun _ _ =>
      yields_caseTypesOf ht cs htail hchoice

end

/-! ## Modules -/

theorem yields_skipData (n : Node) (select : DataNode → Option α) (data : List DataNode) :
    Yields uri (skipData n select data) fun _ => True := by
  unfold skipData
  split
  · exact yields_note _
  · exact yields_pure trivial

section Modules

variable (ht : TreeText tree)

include ht

theorem yields_typeMembers {n : Node} (hn : n ∈ tree.nodes) : YieldsMembers uri (typeMembers n.children) :=
  yields_membersOf ht n.children (fun _ hc => Tree.child_mem_nodes hn hc) [] none fun e he => by cases he

theorem yields_containerInstance {n : Node} (hn : n ∈ tree.nodes) (hk : n.kind = .container) {type : SymbolicName}
    (htype : type.Home uri) (data : List DataNode) : Yields uri (containerInstance n type data) fun _ => True := by
  have hh : HeadText n.head := ht.heads n hn (by rw [hk]; rfl)
  obtain ⟨hbrowse, hdisplay⟩ := hh.visibleNames isPrintable_empty
  unfold containerInstance
  refine (hh.yields_nameFor (isNameText_of_all (by decide))).bind fun name hname => ?_
  refine (yields_membersOf ht n.children (fun _ hc => Tree.child_mem_nodes hn hc) data _ fun e he => ?_).bind fun ms hms =>
    yields_emitted (regular_definition ⟨hname, hbrowse, hdisplay⟩ (regular_name htype) (hms.append (regular_references ?_)))
  · cases he
    exact ⟨hname, hbrowse⟩
  · exact List.forall_mem_singleton.2 ⟨home_builtInName (by decide), home_builtInName (by decide)⟩

theorem yields_translateContainer {n : Node} (hn : n ∈ tree.nodes) (hk : n.kind = .container) (data : List DataNode) :
    Yields uri (translateContainer n data) fun _ => True := by
  have hh : HeadText n.head := ht.heads n hn (by rw [hk]; rfl)
  unfold translateContainer
  refine (hh.yields_nameFor (isNameText_of_all (by decide))).bind fun name hname => ?_
  refine (yields_isRegistered _ _).bind fun known _ => ?_
  refine (hh.yields_containerTypeOf (yields_typeMembers ht hn)).bind fun _ _ => ?_
  split
  · split
    · exact yields_pure trivial
    · exact (yields_containerInstance ht hn hk hname _).bind fun _ _ => yields_pure trivial
  · exact yields_pure trivial

theorem yields_translateStatement (moduleName : String) (data : List DataNode) {m : Module} (hm : m ∈ tree.modules)
    {n : Node} (hn : n ∈ m.statements) : Yields uri (translateStatement tree moduleName data n) fun _ => True := by
  have hnode : n ∈ tree.nodes := Tree.statement_mem_nodes hm hn
  have htop : ∀ i ∈ tree.topIdentities, HeadText i.head := by
    intro i hi
    obtain ⟨m', hm', x, hx, hk, hhead⟩ := Tree.mem_topIdentities.1 hi
    rw [← hhead]
    exact ht.heads x (Tree.statement_mem_nodes hm' hx) (by rw [hk]; rfl)
  obtain ⟨h, kind, children⟩ := n
  have hhead : kind.isNamed = true → HeadText h := ht.heads _ hnode
  have htype : TypeText kind.type? := ht.types _ hnode
  unfold translateStatement
  cases kind with
  | other keyword argument =>
    dsimp only
    split
    · exact yields_note _
    · exact yields_unsupported
  | identity bases =>
    exact (yields_translateIdentityWithin htop _ ⟨h, bases⟩ (hhead rfl)).bind fun _ _ => yields_pure trivial
  | container => exact yields_translateContainer ht hnode rfl data
  | typedef type => exact (yields_translateTypedef htype).bind fun _ _ => yields_pure trivial
  | leaf type => exact ((hhead rfl).yields_leafType htype).bind fun _ _ => yields_skipData _ _ _
  | leafList type => exact ((hhead rfl).yields_leafListType htype).bind fun _ _ => yields_skipData _ _ _
  | list keys =>
    exact ((hhead rfl).yields_listTypesOf (yields_typeMembers ht hnode)).bind fun _ _ => yields_skipData _ _ _
  | choice =>
    have hcases : ∀ name, name.Home uri → Yields uri (caseTypesOf name children) fun _ => True := fun name hname =>
      yields_caseTypesOf ht children (fun c hc => ⟨Tree.child_mem_nodes hnode hc, ht.cases _ hnode rfl c hc⟩) hname
    exact ((hhead rfl).yields_choiceTypeOf hcases).bind fun _ _ => yields_pure trivial
  | case => exact yields_unsupported

theorem yields_translateTree (data : List DataNode) : Yields uri (translateTree tree data) fun _ => True := by
  unfold translateTree
  refine (yields_forM fun m hm => ?_).bind fun _ _ => ?_
  · unfold translateModule
    exact (yields_note _).bind fun _ _ => yields_forM fun n hn => yields_translateStatement ht m.name data hm hn
  · exact fun p hp => Holds.bind (holds_get (yields_note _ p hp))

/-- **The names of a design are regular.** At every depth, the names of a design are names of XML in the namespace of the
design or in the vocabulary, and what people see of them is printable ASCII. -/
theorem translate_regular {s : Settings} {data : List DataNode} {doc : ModelDocument}
    (h : translate s tree data = .ok doc) : Regular s.target (doc.definitions.toList.flatMap Definition.parts) := by
  obtain ⟨p, hrun, rfl⟩ := translate_eq_ok_iff.1 h
  have hproper := (Holds.ok (yields_translateTree ht _ _ (proper_start s.target (designNamespaces s))) hrun).1
  intro part hpart
  obtain ⟨d, hd, hpart⟩ := List.mem_flatMap.1 hpart
  exact hproper.definitions d (Array.mem_toList_iff.1 hd) part hpart

end Modules

end YangDesign.Translate
