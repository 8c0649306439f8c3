/-
The types of a design are the types of the nodes of its schema.

`translate_types`: in a schema with distinct names, the object types, variable types and reference types of the design are, each
once, those that the kinds of the nodes call for (`typeRoles`), at every depth; and a type that holds members has one for each
child that has one, in order, with the name and the type of the child (`outlineFor`).

`Traced` gathers what is known of a translation that answered. `Traced.typed` finds the type of a node in a role: its name was
given to the node, so what is recorded for it was drawn from the node.
-/
import YangDesign.Proofs.Translate.Coverage
import YangDesign.Proofs.Translate.Tracing

namespace YangDesign.Schema

/-- whether nodes of the kind are identities -/
def NodeKind.isIdentity : NodeKind → Bool
  | .identity _ => true
  | _ => false

/-- the names of the identities among some nodes -/
def identityNames (ns : List Node) : List String :=
  (ns.filter (·.kind.isIdentity)).map Node.label

end YangDesign.Schema

namespace YangDesign.Translate

open Design Instance Schema Progress

variable {tree : Tree} {p : Progress}

/-! ## Types of nodes -/

/-- a translation of a schema with distinct names that answered -/
structure Traced (tree : Tree) (p : Progress) : Prop where
  resolved : tree.Resolved
  distinct : tree.Distinct
  sound : Sound tree [] [] p
  recorded : Recorded (· ∈ tree.nodes) p
  covered : ∀ n ∈ tree.nodes, Covered p n
  identities : ∀ i ∈ tree.topIdentities, ∃ n, p.Asked .identity (ownerOf i.head) n

theorem traced_of_run (hr : tree.Resolved) (hd : tree.Distinct) {s : Settings} {data : List DataNode}
    (h : run s tree data = (.ok (), p)) : Traced tree p where
  resolved := hr
  distinct := hd
  sound := run_sound hr h
  recorded := (run_traced hr hd h).1
  covered := (run_sound hr h).covered_nodes hr hd fun m hm n hn => (run_covered hr h m hm n hn).covered
  identities := fun _ hi => run_identity hr h hi

theorem isPlaced_of_typeRoles {k : NodeKind} {r : TypeRole} (hr : r ∈ typeRoles k) (hi : r ≠ .identity) :
    k.isPlaced = true := by
  cases k with
  | identity bases => exact absurd (List.mem_singleton.1 hr) hi
  | container | list | leaf | leafList | choice | case => rfl
  | typedef | other => cases hr

theorem isIdentity_of_typeRoles {k : NodeKind} (hr : .identity ∈ typeRoles k) : ∃ bases, k = .identity bases := by
  cases k with
  | identity bases => exact ⟨bases, rfl⟩
  | container | list | leaf | leafList | choice | case | typedef | other => simp [typeRoles] at hr

/-- the types of a translated node are registered, that of an identity apart -/
theorem Covered.asked {n : Node} (h : Covered p n) {r : TypeRole} (hr : r ∈ typeRoles n.kind) (hi : r ≠ .identity) :
    ∃ s, p.Asked r (ownerOf n.head) s := by
  obtain ⟨head, kind, children⟩ := n
  cases kind with
  | list keys =>
    obtain ⟨hlist, helement, hreference⟩ : (∃ s, p.Asked .list (ownerOf head) s) ∧
        (∃ s, p.Asked .element (ownerOf head) s) ∧ ∃ s, p.Asked .reference (ownerOf head) s := h
    simp only [typeRoles, List.mem_cons, List.not_mem_nil, or_false] at hr
    rcases hr with rfl | rfl | rfl
    · exact hlist
    · exact helement
    · exact hreference
  | container | leaf | leafList | choice | case =>
    obtain rfl := List.mem_singleton.1 hr
    exact h
  | identity bases => exact absurd (List.mem_singleton.1 hr) hi
  | typedef | other => cases hr

namespace Traced

/-- **Each node has its types**: what is recorded under the name of its type in a role was drawn from the node. -/
theorem typed (h : Traced tree p) {n : Node} (hn : n ∈ tree.nodes) {r : TypeRole} (hr : r ∈ typeRoles n.kind)
    (hi : r ≠ .identity) : p.Asked r (ownerOf n.head) (p.namer.typeName r n.head) ∧
      ∃ d, p.document.get? (p.namer.typeName r n.head) = some d ∧ Drawn p n r d := by
  obtain ⟨s, ha⟩ := (h.covered n hn).asked hr hi
  obtain rfl : s = p.namer.typeName r n.head := ha.named.spelled
  refine ⟨ha, ?_⟩
  obtain ⟨e, he⟩ := Option.isSome_iff_exists.1 ha.registered
  obtain ⟨r', o, -, hnamed, hm⟩ := h.sound.requested _ _ _ he
  have hfamily : r.family ≠ .dataType ∧ r.family ≠ .identity := by
    generalize n.kind = k at hr
    cases k <;> simp [typeRoles] at hr
    case list => rcases hr with rfl | rfl | rfl <;> decide
    case identity => exact absurd hr hi
    all_goals subst hr; decide
  rcases h.recorded.registered _ _ _ he with hf | hf | ⟨x, hx, q, hq, -, hgave, hdrawn⟩
  · exact absurd hf hfamily.1
  · exact absurd hf hfamily.2
  · have hx' : p.Named (typeJob q (ownerOf x.head)) (p.namer.typeName r n.head) := hgave
    have hjob : typeJob q (ownerOf x.head) = typeJob r (ownerOf n.head) := hx'.job_unique ha.named
    rw [typeJob, typeJob, Job.mk.injEq, Purpose.type.injEq] at hjob
    obtain ⟨rfl, howner⟩ := hjob
    obtain rfl := eq_of_owner h.resolved h.distinct hx hn (isPlaced_of_typeRoles hq hi) (isPlaced_of_typeRoles hr hi) howner
    cases e with
    | none => cases hm
    | some d => exact ⟨d, hm.1, hdrawn d rfl⟩

/-- nodes below another node, which is no choice, are translated -/
theorem rendered (h : Traced tree p) {n : Node} (hn : n ∈ tree.nodes) (hk : n.kind ≠ .choice) {c : Node}
    (hc : c ∈ n.children) : Rendered p.namer c := by
  have hinner := (h.resolved.nodes n hn).inner (List.ne_nil_of_mem hc)
  have hrole : ∃ r ∈ typeRoles n.kind, r.holdsMembers = true ∧ r ≠ .identity := by
    generalize n.kind = k at hinner hk
    cases k with
    | container => exact ⟨.container, List.mem_cons_self, rfl, by decide⟩
    | list keys => exact ⟨.element, List.mem_cons_of_mem _ List.mem_cons_self, rfl, by decide⟩
    | case => exact ⟨.case, List.mem_cons_self, rfl, by decide⟩
    | choice => exact absurd rfl hk
    | leaf | leafList | typedef | identity | other => cases hinner
  obtain ⟨r, hr, hholds, hi⟩ := hrole
  obtain ⟨-, d, -, hdrawn⟩ := h.typed hn hr hi
  exact hdrawn.rendered hholds c hc

/-- identities stand at the top of a module only -/
theorem isIdentity_eq_false (h : Traced tree p) {n : Node} (hn : n ∈ tree.nodes) {c : Node} (hc : c ∈ n.children) :
    c.kind.isIdentity = false := by
  by_cases hk : n.kind = .choice
  · rw [(h.resolved.nodes n hn).cases hk c hc]
    rfl
  · have hforeign := (h.rendered hn hk hc).native
    generalize c.kind = k at hforeign ⊢
    cases k with
    | identity bases => cases hforeign
    | container | list | leaf | leafList | choice | case | typedef | other => rfl

theorem mem_topIdentities (h : Traced tree p) {n : Node} (hn : n ∈ tree.nodes) {bases : List QName}
    (hk : n.kind = .identity bases) : (⟨n.head, bases⟩ : Identity) ∈ tree.topIdentities := by
  rcases Tree.parent_of_mem_nodes n hn with ⟨m, hm, hnm⟩ | ⟨parent, hp, hc⟩
  · exact Tree.mem_topIdentities.2 ⟨m, hm, n, hnm, hk, rfl⟩
  · have := h.isIdentity_eq_false hp hc
    rw [hk] at this
    cases this

/-- the types of a node are registered under their names -/
theorem asked (h : Traced tree p) {n : Node} (hn : n ∈ tree.nodes) {r : TypeRole} (hr : r ∈ typeRoles n.kind) :
    p.Asked r (ownerOf n.head) (p.namer.typeName r n.head) := by
  by_cases hi : r = .identity
  · subst hi
    obtain ⟨bases, hk⟩ := isIdentity_of_typeRoles hr
    obtain ⟨s, ha⟩ := h.identities _ (h.mem_topIdentities hn hk)
    obtain rfl : s = p.namer.typeName .identity n.head := ha.named.spelled
    exact ha
  · exact (h.typed hn hr hi).1

end Traced

/-! ## Correspondence -/

/-- whether definitions of the kind are made for nodes -/
def isNodeType : DefinitionKind → Bool
  | .objectType | .variableType | .referenceType => true
  | .dataType | .object => false

/-- the object types, variable types and reference types of a design, with their names -/
def nodeTypes (doc : ModelDocument) : List (DefinitionKind × SymbolicName) :=
  (doc.definitions.toList.filter fun d => isNodeType d.kind).map fun d => (d.kind, d.name)

/-- the types that the nodes of a schema call for -/
def typesOfNodes (nm : Namer) (tree : Tree) : List (DefinitionKind × SymbolicName) :=
  tree.nodes.flatMap fun n => (typeRoles n.kind).map fun r => (r.kind, nm.typeName r n.head)

theorem typeName_injective {nm : Namer} {h : Head} {r r' : TypeRole} (heq : nm.typeName r h = nm.typeName r' h) : r = r' := by
  rw [Namer.typeName, Namer.typeName, Namer.symbol, Namer.symbol, SymbolicName.mk.injEq] at heq
  have htext : symbolText (Purpose.type r).text = symbolText (Purpose.type r').text := Namer.spelling_role heq.2
  rw [symbolText_purpose, symbolText_purpose] at htext
  exact Purpose.type.inj (Purpose.text_injective htext)

/-- all types but data types are made for nodes -/
theorem Made.isNodeType_kind {r : TypeRole} {o : Owner} {d : Definition} (h : Made tree p r o d) (hr : r ≠ .dataType) :
    isNodeType d.kind = true := by
  cases h with
  | dataType => exact absurd rfl hr
  | identity _ _ hc | leaf _ _ _ hc | leafList _ _ _ hc | container _ _ _ hc | list _ _ hc | element _ _ _ hc
    | reference _ _ hc | choice _ _ _ hc | case _ _ _ hc =>
    rw [Definition.kind, hc]
    rfl

/-- the kind and the node of a type that is made in a role -/
theorem Made.of_node {r : TypeRole} {o : Owner} {d : Definition} (h : Made tree p r o d) (hk : isNodeType d.kind = true) :
    d.kind = r.kind ∧ ∃ n ∈ tree.nodes, r ∈ typeRoles n.kind ∧ ownerOf n.head = o := by
  cases h with
  | dataType ht hb hd =>
    rw [Definition.kind, hd] at hk
    cases hk
  | identity hi hb hd =>
    obtain ⟨m, hm, n, hn, hkind, hhead⟩ := Tree.mem_topIdentities.1 hi
    exact ⟨by rw [Definition.kind, hd]; rfl, n, Tree.statement_mem_nodes hm hn, by rw [hkind]; exact List.mem_cons_self,
      by rw [hhead]⟩
  | leaf hn hkind ht hd | leafList hn hkind ht hd | container hn hkind ht hd | choice hn hkind ht hd | case hn hkind ht hd =>
    exact ⟨by rw [Definition.kind, hd]; rfl, _, hn, by rw [hkind]; exact List.mem_cons_self, rfl⟩
  | list hn hkind hd =>
    exact ⟨by rw [Definition.kind, hd]; rfl, _, hn, by rw [hkind]; exact List.mem_cons_self, rfl⟩
  | element hn hkind ht hd =>
    exact ⟨by rw [Definition.kind, hd]; rfl, _, hn, by rw [hkind]; simp [typeRoles], rfl⟩
  | reference hn hkind hd =>
    exact ⟨by rw [Definition.kind, hd]; rfl, _, hn, by rw [hkind]; simp [typeRoles], rfl⟩

namespace Traced

/-- a type of the design is the type of a node in a role -/
theorem typesOfNodes_of_mem (h : Traced tree p) {d : Definition} (hd : d ∈ p.document.definitions)
    (hk : isNodeType d.kind = true) : (d.kind, d.name) ∈ typesOfNodes p.namer tree := by
  have hget := h.sound.indexed.get?_of_mem hd
  obtain ⟨r, o, hnamed⟩ := h.recorded.emitted d hd fun hobject => by rw [hobject] at hk; cases hk
  obtain ⟨x, hx, hbegun⟩ := h.sound.known d.name (ModelDocument.Indexed.contains_of_get? hget)
  have htype : p.Named (typeJob r o) d.name := hnamed
  rw [hx.job_unique htype] at hbegun
  obtain ⟨s, ha⟩ : ∃ s, p.Asked r o s := hbegun
  obtain ⟨e, he, hm⟩ := h.sound.made ha
  rw [ha.named.name_unique htype] at he
  cases hget.symm.trans he
  obtain ⟨hkind, n, hn, hr, rfl⟩ := hm.of_node hk
  refine List.mem_flatMap.2 ⟨n, hn, List.mem_map.2 ⟨r, hr, ?_⟩⟩
  rw [← hkind, hnamed.spelled]
  rfl

/-- the type of a node in a role is a type of the design -/
theorem nodeTypes_of_mem (h : Traced tree p) {n : Node} (hn : n ∈ tree.nodes) {r : TypeRole} (hr : r ∈ typeRoles n.kind) :
    (r.kind, p.namer.typeName r n.head) ∈ nodeTypes p.document := by
  obtain ⟨d, hget, hm⟩ := h.sound.made (h.asked hn hr)
  obtain ⟨hmem, hname⟩ := h.sound.indexed.mem_of_get? hget
  have hdata : r ≠ .dataType := by
    rintro rfl
    generalize n.kind = k at hr
    cases k <;> simp [typeRoles] at hr
  have hk := hm.isNodeType_kind hdata
  refine List.mem_map.2 ⟨d, List.mem_filter.2 ⟨Array.mem_toList_iff.2 hmem, hk⟩, ?_⟩
  rw [(hm.of_node hk).1, hname]

theorem nodup_typesOfNodes (h : Traced tree p) (hi : ∀ m ∈ tree.modules, (identityNames m.statements).Nodup) :
    (typesOfNodes p.namer tree).Nodup := by
  have hidentities := h.distinct.pairwise_nodes h.resolved (P := fun n => n.kind.isIdentity = true)
    (fun m hm => by
      have hnames := hi m hm
      unfold identityNames at hnames
      rw [List.Nodup, List.pairwise_map, List.pairwise_filter] at hnames
      exact (hnames.and (apart_of_placedNames (h.distinct.top m hm))).imp fun hapart => ⟨hapart.1, hapart.2.inner⟩)
    fun n hn => (apart_of_placedNames (h.distinct.below n hn)).imp_of_mem fun {a b} ha _ hapart =>
      ⟨fun hka => absurd hka (by simp [h.isIdentity_eq_false hn ha]), hapart.inner⟩
  refine List.nodup_flatMap.2 ⟨fun n _ => ?_, ?_⟩
  · refine List.Nodup.map_on (fun r _ r' _ heq => typeName_injective (Prod.mk.inj heq).2) ?_
    generalize n.kind = k
    cases k <;> simp [typeRoles]
  · refine (hidentities.and (h.distinct.pairwise_placed h.resolved)).imp_of_mem fun {x y} hx hy hplaces => ?_
    rintro ⟨k, s⟩ hkx hky
    obtain ⟨r, hr, hrx⟩ := List.mem_map.1 hkx
    obtain ⟨r', hr', hry⟩ := List.mem_map.1 hky
    have hname : p.namer.typeName r' y.head = p.namer.typeName r x.head :=
      (Prod.mk.inj hry).2.trans (Prod.mk.inj hrx).2.symm
    have hnamed := (h.asked hy hr').named
    rw [hname] at hnamed
    have hjob : typeJob r (ownerOf x.head) = typeJob r' (ownerOf y.head) := (h.asked hx hr).named.job_unique hnamed
    rw [typeJob, typeJob, Job.mk.injEq, Purpose.type.injEq] at hjob
    obtain ⟨rfl, howner⟩ := hjob
    have huri := congrArg Owner.namespaceUri howner
    have hpath := congrArg Owner.path howner
    by_cases hrole : r = .identity
    · subst hrole
      obtain ⟨bases, hkx⟩ := isIdentity_of_typeRoles hr
      obtain ⟨bases', hky⟩ := isIdentity_of_typeRoles hr'
      exact hplaces.1 (by rw [hkx]; rfl) (by rw [hky]; rfl) huri hpath
    · exact hplaces.2 (isPlaced_of_typeRoles hr hrole) (isPlaced_of_typeRoles hr' hrole) huri hpath

/-- a type that holds members has those for the children of its node -/
theorem members (h : Traced tree p) {n : Node} (hn : n ∈ tree.nodes) {r : TypeRole} (hr : r ∈ typeRoles n.kind)
    (hm : r.holdsMembers = true) : ∃ d base, p.document.get? (p.namer.typeName r n.head) = some d ∧
      d.content = .objectType base false (membersFor p.namer [] none n.children) := by
  obtain ⟨-, d, hget, hdrawn⟩ := h.typed hn hr (by rintro rfl; cases hm)
  obtain ⟨base, hcontent⟩ := children_of_mem_typesFor (hdrawn.drawn p.namer (Namer.Grows.refl _)) hm
  exact ⟨d, base, hget, hcontent⟩

end Traced

/-- **The types of a design are those of its schema.** If a translation answers, in a schema whose modules have namespaces of
their own, whose data nodes, choices and cases have other names than their siblings, and whose modules name no two identities
alike: the object types, variable types and reference types of the design are those that its nodes call for, each once; and a
type that holds members has one for each child with a member, in order, with the name and the type of the child. -/
theorem translate_types {d : Document} (hresolve : d.resolve = .ok tree) (hd : tree.Distinct)
    (hi : ∀ m ∈ tree.modules, (identityNames m.statements).Nodup) {s : Settings} {data : List DataNode}
    {doc : ModelDocument} (h : translate s tree data = .ok doc) : ∃ p, run s tree data = (.ok (), p) ∧ p.document = doc ∧
      (nodeTypes doc).Perm (typesOfNodes p.namer tree) ∧
      ∀ n ∈ tree.nodes, ∀ r ∈ typeRoles n.kind, r.holdsMembers = true → ∃ e, doc.get? (p.namer.typeName r n.head) = some e ∧
        e.kind = .objectType ∧ e.children.map outline = n.children.filterMap (outlineFor p.namer) := by
  obtain ⟨p, hrun, rfl⟩ := translate_eq_ok_iff.1 h
  have htraced := traced_of_run (Document.resolve_resolved hresolve) hd hrun
  refine ⟨p, hrun, rfl, ?_, fun n hn r hr hm => ?_⟩
  · have hnodup : (nodeTypes p.document).Nodup := by
      refine List.Nodup.of_map Prod.snd ?_
      rw [nodeTypes, List.map_map]
      exact htraced.sound.indexed.nodup.sublist (List.filter_sublist.map Definition.name)
    refine (List.perm_ext_iff_of_nodup hnodup (htraced.nodup_typesOfNodes hi)).2 ?_
    rintro ⟨k, n⟩
    constructor
    · intro hmem
      obtain ⟨e, he, heq⟩ := List.mem_map.1 hmem
      obtain ⟨hdef, hk⟩ := List.mem_filter.1 he
      rw [← heq]
      exact htraced.typesOfNodes_of_mem (Array.mem_toList_iff.1 hdef) hk
    · intro hmem
      obtain ⟨x, hx, hrole⟩ := List.mem_flatMap.1 hmem
      obtain ⟨r, hr, heq⟩ := List.mem_map.1 hrole
      rw [← heq]
      exact htraced.nodeTypes_of_mem hx hr
  · obtain ⟨e, base, hget, hcontent⟩ := htraced.members hn hr hm
    refine ⟨e, hget, by rw [Definition.kind, hcontent]; rfl, ?_⟩
    rw [Definition.children, hcontent]
    exact outline_membersFor p.namer [] none n.children

/-! ## A schema with data -/

/-- an identity, and a container with a leaf-list, a list and a choice -/
def mixedSchema : Document :=
  let text := TypeRef.mk "string" none none
  let leaf := fun (name : String) => Statement.named name none (.leaf text) []
  ⟨[⟨"m", "u", "m", none, [.named "i" none (.identity []) [],
    .named "c" none .container [.named "y" none (.leafList text) [], .named "l" none (.list ["k"]) [leaf "k"],
      .named "o" none .choice [leaf "p"]]]⟩]⟩

/-- the tree of the mixed schema -/
def mixedTree : Tree :=
  let node := fun (path : List String) (name : String) (kind : NodeKind) (children : List Node) =>
    Node.mk ⟨⟨"u", name⟩, path ++ [name], none⟩ kind children
  let text := fun (path : List String) =>
    some (TypeDef.mk ⟨"u", "string"⟩ (path ++ ["string"]) (.builtIn .string) none [] none)
  let leaf := fun (path : List String) (name : String) => node path name (.leaf (text (path ++ [name]))) []
  ⟨[⟨"m", "u", "m", [node [] "i" (.identity []) [],
    node [] "c" .container [node ["c"] "y" (.leafList (text ["c", "y"])) [],
      node ["c"] "l" (.list ["k"]) [leaf ["c", "l"] "k"],
      node ["c"] "o" .choice [node ["c", "o"] "p" .case [leaf ["c", "o", "p"] "p"]]]], none⟩]⟩

/-- data for the mixed schema: two entries of the list, and a leaf in the choice -/
def mixedData : List DataNode :=
  [.container ⟨"u", "c"⟩ [.leafList ⟨"u", "y"⟩ [.text "Y"],
    .list ⟨"u", "l"⟩ [[.leaf ⟨"u", "k"⟩ (.text "1")], [.leaf ⟨"u", "k"⟩ (.text "2")]],
    .leaf ⟨"u", "p"⟩ (.text "P")]]

theorem resolve_mixedSchema : mixedSchema.resolve = .ok mixedTree := rfl

theorem mixedTree_distinct : mixedTree.Distinct :=
  ⟨by decide +kernel, by decide +kernel, by decide +kernel⟩

/-- the container and the two entries become objects -/
theorem translate_mixedData : ∃ doc, translate (.default 0) mixedTree mixedData = .ok doc ∧
    (doc.ofKind .object).length = 3 := by
  obtain ⟨doc, hdoc, hobjects⟩ : ∃ doc, translate (.default 0) mixedTree mixedData = .ok doc ∧
      ((doc.ofKind .object).length == 3) = true := ok_of_any (by decide +kernel)
  exact ⟨doc, hdoc, beq_iff_eq.1 hobjects⟩

/-- ten types stand for the eight nodes of the mixed schema -/
theorem mixedSchema_types : ∃ tree doc, mixedSchema.resolve = .ok tree ∧ tree.Distinct ∧
    translate (.default 0) tree mixedData = .ok doc ∧ (nodeTypes doc).length = 10 := by
  obtain ⟨doc, hdoc, -⟩ := translate_mixedData
  have hidentities : ∀ m ∈ mixedTree.modules, (identityNames m.statements).Nodup := by decide +kernel
  obtain ⟨p, -, -, hperm, -⟩ := translate_types resolve_mixedSchema mixedTree_distinct hidentities hdoc
  refine ⟨mixedTree, doc, resolve_mixedSchema, mixedTree_distinct, hdoc, hperm.length_eq.trans ?_⟩
  simp [typesOfNodes, mixedTree, Tree.nodes, Module.nodes, Node.allIn, Node.all, typeRoles]

end YangDesign.Translate
