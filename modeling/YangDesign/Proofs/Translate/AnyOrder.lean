/-
A translation without data does not depend on the order of the statements at the top of a module.

Statements that change places leave a tree with the same nodes and the same identities (`Tree.SameParts`), and what bars a
translation and which definitions are called for is said by these alone. Two translations that answer give the same names, since
both give those that the tree asks for, so the two designs hold the same definitions (`design_any_order`).
-/
import YangDesign.Proofs.Schema.TopOrder
import YangDesign.Proofs.Translate.Outcome

namespace YangDesign.Schema

open Translate

/-! ## Trees with the same parts -/

/-- two trees have the same nodes, at the top and at every depth, and know the same identities -/
structure Tree.SameParts (t t' : Tree) : Prop where
  nodes : ∀ n, n ∈ t.nodes ↔ n ∈ t'.nodes
  top : ∀ n, n ∈ t.statements ↔ n ∈ t'.statements
  identity? : ∀ q, t.identity? q = t'.identity? q

theorem Tree.mem_statements {t : Tree} {n : Node} : n ∈ t.statements ↔ ∃ m ∈ t.modules, n ∈ m.statements :=
  List.mem_flatMap

namespace Tree.SameParts

variable {t t' : Tree} {uri : String}

theorem symm (h : t.SameParts t') : t'.SameParts t :=
  ⟨fun n => (h.nodes n).symm, fun n => (h.top n).symm, fun q => (h.identity? q).symm⟩

theorem baseOf? (h : t.SameParts t') (i : Identity) : t.baseOf? i = t'.baseOf? i := by
  rw [Tree.baseOf?, Tree.baseOf?, funext h.identity?]

variable (h : t.SameParts t')

include h

theorem topIdentities {i : Identity} (hi : i ∈ t.topIdentities) : i ∈ t'.topIdentities := by
  obtain ⟨m, hm, n, hn, hk, hhead⟩ := Tree.mem_topIdentities.1 hi
  obtain ⟨m', hm', hn'⟩ := Tree.mem_statements.1 ((h.top n).1 (Tree.mem_statements.2 ⟨m, hm, hn⟩))
  exact Tree.mem_topIdentities.2 ⟨m', hm', n, hn', hk, hhead⟩

theorem makes {u : Source} (hu : t.Makes u) : t'.Makes u := by
  induction hu with
  | type hn ht hderived => exact .type ((h.nodes _).1 hn) ht hderived
  | identity hi => exact .identity (h.topIdentities hi)
  | base _ hunder ih =>
    refine ih.base ?_
    cases hunder with
    | type hb => exact .type hb
    | identity hj => exact .identity ((h.baseOf? _).symm.trans hj)

theorem asks {o : Owner} {r : TypeRole} (ha : t.Asks o r) : t'.Asks o r := by
  cases ha with
  | type hn hr => exact .type ((h.nodes _).1 hn) hr
  | source hu => exact .source (h.makes hu)
  | member hn hc hk => exact .member ((h.nodes _).1 hn) hc hk

theorem barred (hb : t.Barred uri) : t'.Barred uri := by
  cases hb with
  | statement hm hn hk =>
    obtain ⟨m', hm', hn'⟩ := Tree.mem_statements.1 ((h.top _).1 (Tree.mem_statements.2 ⟨_, hm, hn⟩))
    exact .statement hm' hn' hk
  | child hstranger =>
    obtain ⟨n, hn, hstranger⟩ := hstranger
    exact .child ⟨n, (h.nodes n).1 hn, hstranger⟩
  | bases hi hlen => exact .bases (h.topIdentities hi) hlen
  | names hclash => exact .names { hclash with asks := h.asks hclash.asks, asks' := h.asks hclash.asks' }

theorem owns {o : Owner} (ho : t.Owns o) : t'.Owns o := by
  rcases ho with ⟨n, hn, hk, rfl⟩ | ⟨u, hu, rfl⟩
  · exact Tree.owns_node ((h.nodes n).1 hn) hk
  · obtain ⟨n, hn, hun⟩ := List.mem_flatMap.1 hu
    exact Tree.owns_type (List.mem_flatMap.2 ⟨n, (h.nodes n).1 hn, hun⟩)

theorem calls {nm : Namer} {d : Design.Definition} (hd : t.Calls nm d) : t'.Calls nm d := by
  cases hd with
  | @source u hu =>
    have hsame : sourceFor nm t u = sourceFor nm t' u := by
      cases u with
      | type => rfl
      | identity i => rw [sourceFor, sourceFor, h.baseOf?]
    rw [hsame]
    exact .source (h.makes hu)
  | type hn hd => exact .type ((h.nodes _).1 hn) hd

end Tree.SameParts

/-! ## Statements that change places -/

namespace Tree.Shuffled

variable {t t' : Tree} (h : t.Shuffled t')

include h

theorem mem_statements (n : Node) : n ∈ t.statements ↔ n ∈ t'.statements := by
  obtain ⟨m, m', hm, hm', hs⟩ := h
  rw [Tree.statements, Tree.statements, hm, hm', List.flatMap_singleton, List.flatMap_singleton]
  exact hs.statements.mem_iff.symm

theorem mem_nodes (n : Node) : n ∈ t.nodes ↔ n ∈ t'.nodes := by
  rw [Tree.nodes_eq, Tree.nodes_eq, Node.mem_allIn, Node.mem_allIn]
  exact exists_congr fun x => and_congr_left fun _ => h.mem_statements x

theorem distinct (hd : t.Distinct) : t'.Distinct := by
  have hnodes := h.mem_nodes
  obtain ⟨m, m', hm, hm', hs⟩ := h
  refine ⟨by rw [hm']; exact List.nodup_singleton _, fun x hx => ?_, fun n hn => hd.below n ((hnodes n).2 hn)⟩
  rw [hm', List.mem_singleton] at hx
  subst hx
  exact ((hs.statements.filter _).map Node.label).nodup_iff.2 (hd.top m (by rw [hm]; exact List.mem_cons_self))

theorem identitiesApart (hi : t.IdentitiesApart) : t'.IdentitiesApart := by
  obtain ⟨m, m', hm, hm', hs⟩ := h
  intro x hx
  rw [hm', List.mem_singleton] at hx
  subst hx
  exact ((hs.statements.filter _).map Node.label).nodup_iff.2 (hi m (by rw [hm]; exact List.mem_cons_self))

theorem typesApart (ht : t.TypesApart) : t'.TypesApart := by
  have htypes : ∀ {u : TypeDef}, u ∈ t'.types → u ∈ t.types := by
    intro u hu
    obtain ⟨n, hn, hun⟩ := List.mem_flatMap.1 hu
    exact List.mem_flatMap.2 ⟨n, (h.mem_nodes n).2 hn, hun⟩
  exact fun u hu v hv => ht u (htypes hu) v (htypes hv)

end Tree.Shuffled

theorem Tree.Orderly.identity?_eq_some_iff {t : Tree} {uri : String} (h : t.Orderly uri) {q : QName} {i : Identity} :
    t.identity? q = some i ↔ i ∈ t.topIdentities ∧ i.head.name = q := by
  refine ⟨Tree.mem_of_identity?, ?_⟩
  rintro ⟨hi, rfl⟩
  obtain ⟨j, hj⟩ := Option.isSome_iff_exists.1 (Tree.identity?_isSome hi)
  obtain ⟨hjmem, hname⟩ := Tree.mem_of_identity? hj
  have howner : ownerOf j.head = ownerOf i.head := by
    rw [ownerOf, ownerOf, h.resolved.statement_path hi, h.resolved.statement_path hjmem, hname]
  rw [hj, h.identity_unique hjmem hi howner]

/-- statements that change places leave an orderly tree with the same parts -/
theorem Tree.Orderly.sameParts {t t' : Tree} {uri : String} (h : t.Orderly uri) (h' : t'.Orderly uri)
    (hs : t.Shuffled t') : t.SameParts t' := by
  have hidentities : ∀ i, i ∈ t.topIdentities ↔ i ∈ t'.topIdentities := by
    intro i
    obtain ⟨m, m', hm, hm', hperm⟩ := hs
    rw [Tree.topIdentities, Tree.topIdentities, hm, hm', List.flatMap_singleton, List.flatMap_singleton]
    exact (hperm.statements.filterMap _).mem_iff.symm
  refine ⟨hs.mem_nodes, hs.mem_statements, fun q => Option.ext fun i => ?_⟩
  rw [h.identity?_eq_some_iff, h'.identity?_eq_some_iff, hidentities]

/-- all names that a document of one module asks for are in the namespace of the module -/
theorem Document.home_of_resolve {m : ModuleDecl} {t : Tree} (h : Document.resolve ⟨[m]⟩ = .ok t) :
    t.Home m.namespaceUri := by
  have hr := Document.resolve_resolved h
  have hnodes : ∀ n ∈ t.nodes, n.head.name.namespaceUri = m.namespaceUri := by
    obtain ⟨-, n', -, -, hmodules, huri⟩ := Document.module_of_resolve h
    refine Tree.nodes_induct (fun x hx n hn => ?_) fun n hn hnuri c hc => ?_
    · rw [hmodules, List.mem_singleton] at hx
      subst hx
      exact (hr.top _ (by rw [hmodules]; exact List.mem_cons_self) n hn).1.trans huri
    · exact ((hr.nodes n hn).below c hc).1.trans hnuri
  intro o r ha
  cases ha with
  | type hn _ => exact hnodes _ hn
  | member hn hc _ => exact hnodes _ (Tree.child_mem_nodes hn hc)
  | source hu =>
    rcases hu.owns with ⟨n, hn, -, ho⟩ | ⟨u, hu, ho⟩
    · rw [← ho]
      exact hnodes n hn
    · rw [← ho]
      exact Document.namespace_of_types h u hu

end YangDesign.Schema

namespace YangDesign.Translate

open Design Instance Schema Progress

variable {tree tree' : Tree} {uri : String} {p p' : Progress}

/-! ## Two translations -/

/-- the names that one translation gave out, the other gave out as well -/
theorem Settled.grows (h : Settled tree uri p) (h' : Settled tree' uri p') (hs : tree.SameParts tree')
    (htarget : p'.namer.target = p.namer.target) : p.namer.Grows p'.namer := by
  refine ⟨htarget, ?_, fun name o ho => ?_⟩
  · rcases h.tame.seen with hnone | ⟨hone, o, r, ha⟩
    · rw [hnone]
      exact List.nil_prefix
    · rw [hone, h'.namespaces_eq (hs.asks ha)]
  · obtain ⟨r, ha, hgave⟩ := h.tame.owned name o ho
    obtain ⟨n, hn⟩ := h'.gave_of_asks (hs.asks ha)
    have hspelling : p'.namer.spelling o r.text = p.namer.spelling o r.text := by
      rw [Namer.spelling, Namer.spelling, h.namespaces_eq ha, h'.namespaces_eq (hs.asks ha)]
    have hname : n.name = name := by
      rw [hn.spelled, Namer.symbol, hspelling]
      exact (congrArg SymbolicName.name hgave.spelled).symm
    rw [← hname]
    exact hn.owned

/-- two translations of trees with the same parts make the same definitions -/
theorem Settled.perm (h : Settled tree uri p) (h' : Settled tree' uri p') (hs : tree.SameParts tree')
    (htarget : p'.namer.target = p.namer.target) :
    p.document.definitions.toList.Perm p'.document.definitions.toList := by
  have hgrows := h.grows h' hs htarget
  refine (List.perm_ext_iff_of_nodup (.of_map _ h.traced.sound.indexed.nodup)
    (.of_map _ h'.traced.sound.indexed.nodup)).2 fun d => ?_
  calc d ∈ p.document.definitions.toList
    _ ↔ d ∈ p.document.definitions := Array.mem_toList_iff
    _ ↔ tree.Calls p'.namer d := h.mem_definitions_iff hgrows
    _ ↔ tree'.Calls p'.namer d := ⟨hs.calls, hs.symm.calls⟩
    _ ↔ d ∈ p'.document.definitions := (h'.mem_definitions_iff (Namer.Grows.refl _)).symm
    _ ↔ d ∈ p'.document.definitions.toList := Array.mem_toList_iff.symm

/-- a document resolves, and without data it is translated to a design -/
def Designs (s : Settings) (d : Document) (doc : ModelDocument) : Prop :=
  ∃ tree, d.resolve = .ok tree ∧ translate s tree [] = .ok doc

/-- **The order of the statements at the top does not matter.** In a checked document of one module let no two data nodes,
choices or cases below one node share a name, nor two identities, and no two types a path. Whatever the order of the statements
at the top of the module: the document resolves in both orders or in neither, it is translated without data in both or in
neither, and the two designs have the same definitions. -/
theorem design_any_order {v : Value} {m : ModuleDecl} (hcheck : Document.check v = .ok ⟨[m]⟩) {ss : List Statement}
    (hp : ss.Perm m.statements)
    (hapart : ∀ tree, Document.resolve ⟨[m]⟩ = .ok tree → tree.Distinct ∧ tree.IdentitiesApart ∧ tree.TypesApart)
    (s : Settings) :
    ((∃ tree, Document.resolve ⟨[m]⟩ = .ok tree) ↔ ∃ tree, Document.resolve ⟨[{ m with statements := ss }]⟩ = .ok tree) ∧
    ((∃ doc, Designs s ⟨[m]⟩ doc) ↔ ∃ doc, Designs s ⟨[{ m with statements := ss }]⟩ doc) ∧
    ∀ doc doc', Designs s ⟨[m]⟩ doc → Designs s ⟨[{ m with statements := ss }]⟩ doc' →
      doc.definitions.toList.Perm doc'.definitions.toList := by
  have hiff := Document.resolve_shuffled_iff hp
  by_cases hresolve : ∃ tree, Document.resolve ⟨[m]⟩ = .ok tree
  · obtain ⟨tree, htree⟩ := hresolve
    obtain ⟨tree', htree', hshuffled⟩ := Document.resolve_shuffled hp htree
    obtain ⟨hd, hi, ht⟩ := hapart tree htree
    have horderly : tree.Orderly m.namespaceUri :=
      ⟨Document.resolve_resolved htree, Document.home_of_resolve htree, hd, hi, ht⟩
    have hhome' : tree'.Home ({ m with statements := ss } : ModuleDecl).namespaceUri := Document.home_of_resolve htree'
    have horderly' : tree'.Orderly m.namespaceUri :=
      ⟨Document.resolve_resolved htree', hhome', hshuffled.distinct hd,
        hshuffled.identitiesApart hi, hshuffled.typesApart ht⟩
    have hparts := horderly.sameParts horderly' hshuffled
    have hsymbols : ∀ o, tree.Owns o → ∀ (n : Namer) (q : Purpose), Text.isSymbol (n.spelling o q.text) = true :=
      fun o ho => isSymbol_of_owns hcheck htree ho
    have hdesigns : ∀ {doc}, Designs s ⟨[m]⟩ doc ↔ translate s tree [] = .ok doc := by
      intro doc
      refine ⟨fun ⟨t, ht, hdoc⟩ => ?_, fun hdoc => ⟨tree, htree, hdoc⟩⟩
      cases htree.symm.trans ht
      exact hdoc
    have hdesigns' : ∀ {doc}, Designs s ⟨[{ m with statements := ss }]⟩ doc ↔ translate s tree' [] = .ok doc := by
      intro doc
      refine ⟨fun ⟨t, ht, hdoc⟩ => ?_, fun hdoc => ⟨tree', htree', hdoc⟩⟩
      cases htree'.symm.trans ht
      exact hdoc
    refine ⟨hiff, ?_, fun doc doc' hdoc hdoc' => ?_⟩
    · simp only [hdesigns, hdesigns']
      rw [translate_isOk_iff horderly s hsymbols,
        translate_isOk_iff horderly' s fun o ho => hsymbols o (hparts.symm.owns ho)]
      exact not_congr ⟨hparts.barred, hparts.symm.barred⟩
    · obtain ⟨p, hrun, rfl⟩ := translate_eq_ok_iff.1 (hdesigns.1 hdoc)
      obtain ⟨p', hrun', rfl⟩ := translate_eq_ok_iff.1 (hdesigns'.1 hdoc')
      refine (settled_of_run horderly hrun).perm (settled_of_run horderly' hrun') hparts ?_
      rw [run_target horderly.resolved hrun, run_target horderly'.resolved hrun']
  · have hresolve' := (not_congr hiff).1 hresolve
    refine ⟨hiff, ⟨fun ⟨_, t, ht, _⟩ => absurd ⟨t, ht⟩ hresolve, fun ⟨_, t, ht, _⟩ => absurd ⟨t, ht⟩ hresolve'⟩, ?_⟩
    rintro doc doc' ⟨t, ht, -⟩ -
    exact absurd ⟨t, ht⟩ hresolve

/-! ## Forward references -/

/-- a schema in which an identity, a typedef and a leaf stand before what they refer to -/
def forwardSchema : Value :=
  let statement := fun (kind name : String) (members : List (Value × Value)) =>
    Value.map ((.text "kind", .text kind) :: (.text "name", .text name) :: members)
  .map [(.text "modules", .list [.map [(.text "name", .text "m"), (.text "namespace", .text "urn:m"),
    (.text "prefix", .text "m"), (.text "statements", .list [
      statement "identity" "i" [(.text "bases", .list [.text "j"])],
      statement "typedef" "a" [(.text "type", .text "b")],
      statement "container" "c" [(.text "children", .list [statement "leaf" "x" [(.text "type", .text "a")]])],
      statement "typedef" "b" [(.text "type", .text "string")],
      statement "identity" "j" []])]])]

/-- its module -/
def forwardModule : ModuleDecl :=
  ⟨"m", "urn:m", "m", none, [
    .named "i" none (.identity ["j"]) [],
    .named "a" none (.typedef (.mk "b" none none)) [],
    .named "c" none .container [.named "x" none (.leaf (.mk "a" none none)) []],
    .named "b" none (.typedef (.mk "string" none none)) [],
    .named "j" none (.identity []) []]⟩

/-- the tree of its module with the statements in an order -/
def forwardTree (order : List Node → List Node) : Tree :=
  let type := fun (name : String) (path : List String) (base : Option TypeDef) =>
    TypeDef.mk ⟨"urn:m", name⟩ path (.builtIn .string) base [] none
  let node := fun (path : List String) (name : String) (kind : NodeKind) (children : List Node) =>
    Node.mk ⟨⟨"urn:m", name⟩, path ++ [name], none⟩ kind children
  let b := type "b" ["b"] (some (type "string" ["b", "string"] none))
  let a := type "a" ["a"] (some b)
  ⟨[⟨"m", "urn:m", "m", order [
      node [] "i" (.identity [⟨"urn:m", "j"⟩]) [],
      node [] "a" (.typedef (some a)) [],
      node [] "c" .container [node ["c"] "x" (.leaf (some a)) []],
      node [] "b" (.typedef (some b)) [],
      node [] "j" (.identity []) []], none⟩]⟩

theorem forwardTree_typesApart : (forwardTree id).TypesApart := by
  intro u hu v hv _ hpath
  simp only [forwardTree, id, Tree.types, Tree.nodes, Module.nodes, Node.allIn, Node.all, Node.types, NodeKind.type?,
    TypeDef.chain, List.flatMap_cons, List.flatMap_nil, List.append_nil, List.nil_append, List.cons_append,
    List.mem_cons, List.not_mem_nil, or_false] at hu hv
  rcases hu with rfl | rfl | rfl | rfl | rfl | rfl | rfl | rfl <;>
    rcases hv with rfl | rfl | rfl | rfl | rfl | rfl | rfl | rfl <;>
    first
    | rfl
    | simp at hpath

/-- the statements of the module reversed make the same six definitions, in another order -/
theorem forwardSchema_reversed : ∃ doc doc', Document.check forwardSchema = .ok ⟨[forwardModule]⟩ ∧
    Designs (.default 0) ⟨[forwardModule]⟩ doc ∧
    Designs (.default 0) ⟨[{ forwardModule with statements := forwardModule.statements.reverse }]⟩ doc' ∧
    doc.definitions.toList.Perm doc'.definitions.toList ∧
    doc.definitions.toList.map (fun d => d.name.name) =
      ["ns0__j", "ns0__i", "ns0__bDataType", "ns0__aDataType", "ns0__c___xLeafType", "ns0__cContainerType"] ∧
    doc'.definitions.toList.map (fun d => d.name.name) =
      ["ns0__j", "ns0__bDataType", "ns0__aDataType", "ns0__c___xLeafType", "ns0__cContainerType", "ns0__i"] := by
  have hresolve : Document.resolve ⟨[forwardModule]⟩ = .ok (forwardTree id) := rfl
  have hresolve' : Document.resolve ⟨[{ forwardModule with statements := forwardModule.statements.reverse }]⟩ =
      .ok (forwardTree List.reverse) := rfl
  have hapart : ∀ tree, Document.resolve ⟨[forwardModule]⟩ = .ok tree →
      tree.Distinct ∧ tree.IdentitiesApart ∧ tree.TypesApart := by
    intro tree h
    cases hresolve.symm.trans h
    exact ⟨⟨by decide +kernel, by decide +kernel, by decide +kernel⟩, by unfold Tree.IdentitiesApart; decide +kernel,
      forwardTree_typesApart⟩
  obtain ⟨doc, hdoc, hnames⟩ : ∃ doc, translate (.default 0) (forwardTree id) [] = .ok doc ∧
      (doc.definitions.toList.map (fun d => d.name.name) == ["ns0__j", "ns0__i", "ns0__bDataType", "ns0__aDataType",
        "ns0__c___xLeafType", "ns0__cContainerType"]) = true := ok_of_any (by decide +kernel)
  obtain ⟨-, hboth, hsame⟩ := design_any_order (v := forwardSchema) (m := forwardModule) rfl
    (List.reverse_perm forwardModule.statements) hapart (.default 0)
  have hdesigns : Designs (.default 0) ⟨[forwardModule]⟩ doc := ⟨_, hresolve, hdoc⟩
  obtain ⟨doc', hdoc'⟩ := hboth.1 ⟨doc, hdesigns⟩
  have hnames' : (doc'.definitions.toList.map (fun d => d.name.name) == ["ns0__j", "ns0__bDataType", "ns0__aDataType",
        "ns0__c___xLeafType", "ns0__cContainerType", "ns0__i"]) = true := by
    obtain ⟨e, he, hnames⟩ : ∃ doc, translate (.default 0) (forwardTree List.reverse) [] = .ok doc ∧
      (doc.definitions.toList.map (fun d => d.name.name) == ["ns0__j", "ns0__bDataType", "ns0__aDataType",
        "ns0__c___xLeafType", "ns0__cContainerType", "ns0__i"]) = true := ok_of_any (by decide +kernel)
    obtain ⟨tree, htree, htranslate⟩ := hdoc'
    cases hresolve'.symm.trans htree
    cases htranslate.symm.trans he
    exact hnames
  exact ⟨doc, doc', rfl, hdesigns, hdoc', hsame doc doc' hdesigns hdoc', beq_iff_eq.1 hnames, beq_iff_eq.1 hnames'⟩

end YangDesign.Translate
