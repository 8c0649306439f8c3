/-
Values of instance data in the objects of a design.

`valuesIn` walks over data: each data node gives its value, under the name of the schema node that declares it, or leads to the
data below; what is declared in a choice counts for nothing. `fillings` walks over members and collects the default values.
`translate_values`: the defaults in the objects of a design are the values of the data below the containers at the top, each
once; and the data type of a default is that of its variable type.

Between the two stands `fillingsFor`, which follows the schema as a translation does. `perm_fill` finds its terms in the objects
made on the way; `perm_fillingsFor` finds them in the data, since nodes and data of one name find each other.
-/
import YangDesign.Proofs.Instance.Lookup
import YangDesign.Proofs.Translate.Conformance

namespace YangDesign.Translate

open Design Instance Schema Progress
open scoped List

variable {tree : Tree} {p : Progress}

/-! ## Values of data -/

mutual

/-- the values that a data node and the data below it give to a schema node -/
def valuesAs (nm : Namer) (n : Node) : DataNode → List (SymbolicName × Value)
  | .leaf _ v =>
    match n.kind with
    | .leaf _ => [(nm.ownName n.head, v)]
    | _ => []
  | .leafList _ vs =>
    match n.kind with
    | .leafList _ => [(nm.ownName n.head, .tuple vs)]
    | _ => []
  | .container _ ds =>
    match n.kind with
    | .container => valuesIn nm n.children ds
    | _ => []
  | .list _ entries =>
    match n.kind with
    | .list _ => valuesOver nm n.children entries
    | _ => []

/-- the values of data for some nodes; data that a choice declares have none -/
def valuesIn (nm : Namer) (ns : List Node) : List DataNode → List (SymbolicName × Value)
  | [] => []
  | d :: ds =>
    (match declared? d.name false ns with
      | some (n, false) => valuesAs nm n d
      | _ => []) ++ valuesIn nm ns ds

/-- the values of the entries of a list -/
def valuesOver (nm : Namer) (ns : List Node) : List (List DataNode) → List (SymbolicName × Value)
  | [] => []
  | ds :: entries => valuesIn nm ns ds ++ valuesOver nm ns entries

end

/-- the values of the data below the containers at the top of the modules -/
def topValues (nm : Namer) (tree : Tree) (data : List DataNode) : List (SymbolicName × Value) :=
  data.flatMap fun d =>
    match d, declared? d.name false tree.statements with
    | .container .., some (n, false) => valuesAs nm n d
    | _, _ => []

/-! ## Defaults of members -/

/-- the default value of a variable member, with the name and the type of the member -/
structure Filling where
  name : SymbolicName
  type : Option SymbolicName
  default : DefaultValue

/-- the name of a filling with its value -/
def Filling.named (f : Filling) : SymbolicName × Value :=
  (f.name, f.default.value)

mutual

/-- the default values of a member and of the members below it -/
def fillings : Member → List Filling
  | .variableNode labels type _ _ default => (default.map fun x => ⟨labels.symbolic, type, x⟩).toList
  | .objectNode _ _ _ children => fillingsIn children

/-- the default values of some members -/
def fillingsIn : List Member → List Filling
  | [] => []
  | m :: ms => fillings m ++ fillingsIn ms

end

theorem fillingsIn_append (ms ms' : List Member) : fillingsIn (ms ++ ms') = fillingsIn ms ++ fillingsIn ms' := by
  induction ms with
  | nil => simp [fillingsIn]
  | cons m ms ih => simp [fillingsIn, ih]

/-- the default values in some definitions -/
def fillingsOf (ds : List Definition) : List Filling :=
  ds.flatMap fun d => fillingsIn d.children

/-! ## Defaults of a schema -/

mutual

/-- the default values that data give to a node and the nodes below it -/
def fillingsFor (nm : Namer) (data : List DataNode) : Node → List Filling
  | ⟨h, kind, children⟩ =>
    match kind with
    | .container =>
      ((findChild? DataNode.containerChildren? h.name data).map fun ds => fillingsForAll nm ds children).getD []
    | .list _ =>
      ((findChild? DataNode.listEntries? h.name data).map fun entries =>
        entries.flatMap fun ds => fillingsForAll nm ds children).getD []
    | .leaf (some t) =>
      ((findChild? DataNode.leafValue? h.name data).map fun v =>
        [⟨nm.ownName h, some (nm.typeName .leaf h), ⟨dataTypeFor nm t, v⟩⟩]).getD []
    | .leafList (some t) =>
      ((findChild? DataNode.leafListValues? h.name data).map fun vs =>
        [⟨nm.ownName h, some (nm.typeName .leafList h), ⟨dataTypeFor nm t, .tuple vs⟩⟩]).getD []
    | _ => []

/-- the default values that data give to some nodes -/
def fillingsForAll (nm : Namer) (data : List DataNode) : List Node → List Filling
  | [] => []
  | n :: ns => fillingsFor nm data n ++ fillingsForAll nm data ns

end

/-! ## From the schema to the objects -/

/-- the default values of the objects in stock -/
def Stock.fillings (k : Stock) : List Filling :=
  fillingsOf k.objects

theorem Stock.fillings_add (k : Stock) (d : Definition) : (k.add d).fillings = k.fillings ++ fillingsIn d.children := by
  simp [Stock.fillings, Stock.add, fillingsOf]

mutual

/-- what the data of a node add to the stock and to its member -/
theorem perm_fillNode (nm : Namer) : ∀ (n : Node) (data : List DataNode) (e : Enclosing) (k : Stock),
    ((Stock.fillNode nm data (some e) n k).fillings ++ fillingsIn (memberFor nm data (some e) n).toList).Perm
      (k.fillings ++ fillingsFor nm data n)
  | ⟨head, kind, children⟩, data, e, k => by
    cases kind with
    | container =>
      simp only [Stock.fillNode, memberFor, fillingsFor]
      cases findChild? DataNode.containerChildren? head.name data with
      | none => simp [fillingsIn, Translate.fillings]
      | some ds => simpa [fillingsIn, Translate.fillings] using perm_fill nm children ds _ k
    | list keys =>
      simp only [Stock.fillNode, memberFor, fillingsFor]
      cases findChild? DataNode.listEntries? head.name data with
      | none => simp [fillingsIn, Translate.fillings]
      | some entries =>
        have hentries : ∀ k : Stock, (entries.foldl (Stock.entry nm head e (fun ds e => membersFor nm ds (some e) children)
            fun ds e k => Stock.fill nm ds (some e) children k) k).fillings.Perm
            (k.fillings ++ entries.flatMap fun ds => fillingsForAll nm ds children) := by
          induction entries with
          | nil => exact fun k => by simp
          | cons ds entries ih =>
            intro k
            have hentry := perm_fill nm children ds (entryEnclosing nm head (k.next (nm.ownName head)))
              (k.count (nm.ownName head))
            rw [List.foldl_cons, List.flatMap_cons, ← List.append_assoc]
            refine (ih _).trans (List.Perm.append_right _ ?_)
            rw [Stock.entry, Stock.fillings_add]
            exact hentry
        simpa [fillingsIn, Translate.fillings] using hentries k
    | leaf type =>
      cases type with
      | none => simp [Stock.fillNode, memberFor, fillingsFor, fillingsIn]
      | some t =>
        simp only [Stock.fillNode, memberFor, fillingsFor]
        cases findChild? DataNode.leafValue? head.name data <;> simp [fillingsIn, Translate.fillings]
    | leafList type =>
      cases type with
      | none => simp [Stock.fillNode, memberFor, fillingsFor, fillingsIn]
      | some t =>
        simp only [Stock.fillNode, memberFor, fillingsFor]
        cases findChild? DataNode.leafListValues? head.name data <;>
          simp [fillingsIn, Translate.fillings, plainLabels]
    | choice => simp [Stock.fillNode, memberFor, fillingsFor, fillingsIn, Translate.fillings]
    | case | typedef | identity | other => simp [Stock.fillNode, memberFor, fillingsFor, fillingsIn]

theorem perm_fill (nm : Namer) : ∀ (ns : List Node) (data : List DataNode) (e : Enclosing) (k : Stock),
    ((Stock.fill nm data (some e) ns k).fillings ++ fillingsIn (membersFor nm data (some e) ns)).Perm
      (k.fillings ++ fillingsForAll nm data ns)
  | [], data, e, k => by simp [Stock.fill, membersFor, fillingsForAll, fillingsIn]
  | n :: ns, data, e, k => by
    rw [Stock.fill, membersFor, fillingsForAll, fillingsIn_append]
    have hhead := perm_fillNode nm n data e k
    have htail := perm_fill nm ns data e (Stock.fillNode nm data (some e) n k)
    generalize fillingsIn (memberFor nm data (some e) n).toList = ms at hhead ⊢
    generalize fillingsIn (membersFor nm data (some e) ns) = ms' at htail ⊢
    calc
      _ ~ ((Stock.fill nm data (some e) ns (Stock.fillNode nm data (some e) n k)).fillings ++ ms') ++ ms := by
        rw [List.append_assoc]
        exact List.Perm.append_left _ List.perm_append_comm
      _ ~ ((Stock.fillNode nm data (some e) n k).fillings ++ fillingsForAll nm data ns) ++ ms := htail.append_right _
      _ ~ ((Stock.fillNode nm data (some e) n k).fillings ++ ms) ++ fillingsForAll nm data ns := by
        rw [List.append_assoc, List.append_assoc]
        exact List.Perm.append_left _ List.perm_append_comm
      _ ~ (k.fillings ++ fillingsFor nm data n) ++ fillingsForAll nm data ns := hhead.append_right _
      _ = _ := List.append_assoc _ _ _

end

/-- the default values that data at the top give to a statement: only containers become objects -/
def topFillings (nm : Namer) (data : List DataNode) (n : Node) : List Filling :=
  match n.kind with
  | .container => fillingsFor nm data n
  | _ => []

theorem perm_top (nm : Namer) (data : List DataNode) (k : Stock) (n : Node) :
    (Stock.top nm data k n).fillings ~ k.fillings ++ topFillings nm data n := by
  obtain ⟨head, kind, children⟩ := n
  cases kind with
  | container =>
    simp only [Stock.top, topFillings, fillingsFor]
    cases findChild? DataNode.containerChildren? head.name data with
    | none => simp
    | some ds =>
      rw [Stock.fillings_add]
      exact perm_fill nm children ds _ k
  | list | leaf | leafList | choice | case | typedef | identity | other => simp [Stock.top, topFillings]

/-- the defaults of the objects that a translation makes -/
theorem perm_foldl_top (nm : Namer) (data : List DataNode) (ns : List Node) (k : Stock) :
    (ns.foldl (Stock.top nm data) k).fillings ~ k.fillings ++ ns.flatMap (topFillings nm data) := by
  induction ns generalizing k with
  | nil => simp
  | cons n ns ih =>
    rw [List.foldl_cons, List.flatMap_cons, ← List.append_assoc]
    exact (ih _).trans ((perm_top nm data k n).append_right _)

/-! ## From the data to the schema -/

/-- data nodes have other names than all data nodes next to them, choices looked through -/
structure DataDistinct (tree : Tree) : Prop where
  top : ∀ m ∈ tree.modules, (dataNames m.statements).Nodup
  below : ∀ n ∈ tree.nodes, (dataNames n.children).Nodup

theorem valuesIn_eq (nm : Namer) (ns : List Node) (ds : List DataNode) : valuesIn nm ns ds = ds.flatMap fun d =>
    match declared? d.name false ns with
    | some (n, false) => valuesAs nm n d
    | _ => [] := by
  induction ds with
  | nil => rw [valuesIn, List.flatMap_nil]
  | cons d ds ih => rw [valuesIn, ih, List.flatMap_cons]

theorem valuesOver_eq (nm : Namer) (ns : List Node) (entries : List (List DataNode)) :
    valuesOver nm ns entries = entries.flatMap (valuesIn nm ns) := by
  induction entries with
  | nil => rw [valuesOver, List.flatMap_nil]
  | cons ds entries ih => rw [valuesOver, ih, List.flatMap_cons]

/-- the defaults from the data that are selected for a node are the values of the data of its name -/
theorem perm_named {β : Type} {ds : List DataNode} (h : Unrepeated ds) {n : Node} (hk : n.kind.isData = true)
    {select : DataNode → Option β} {g : β → List Filling} {f : DataNode → List (SymbolicName × Value)}
    (hfg : ∀ d ∈ ds, (((select d).map g).getD []).map Filling.named ~ f d) :
    (((findChild? select n.head.name ds).map g).getD []).map Filling.named ~
      ds.flatMap fun d => if Node.declares n d.name then f d else [] := by
  have hmap : ∀ x : Option β,
      ((x.map g).getD []).map Filling.named = (x.map fun b => (g b).map Filling.named).getD [] := by
    intro x
    cases x <;> rfl
  rw [hmap]
  refine perm_selected h.nodup hk fun d hd => ?_
  rw [← hmap]
  exact hfg d hd

mutual

/-- the defaults that data give to a node are the values of the data of its name -/
theorem perm_fillingsFor (nm : Namer) (hr : tree.Resolved) (hdata : DataDistinct tree) : ∀ (n : Node), n ∈ tree.nodes →
    ∀ (ds : List DataNode), Unrepeated ds → (fillingsFor nm ds n).map Filling.named ~
      ds.flatMap fun d => if Node.declares n d.name then valuesAs nm n d else []
  | ⟨head, kind, children⟩, hn, ds, hds => by
    have hbelow : ∀ cs, Unrepeated cs → (fillingsForAll nm cs children).map Filling.named ~ valuesIn nm children cs := by
      intro cs hcs
      have hchildren := perm_fillingsForAll nm hr hdata children (fun c hc => Tree.child_mem_nodes hn hc) cs hcs
      rw [valuesIn_eq]
      exact hchildren.trans (perm_matched (hdata.below _ hn) cs (valuesAs nm))
    cases kind with
    | container =>
      rw [fillingsFor]
      refine perm_named hds (n := ⟨head, .container, children⟩) rfl fun d hd => ?_
      cases d with
      | container q cs => simpa [DataNode.containerChildren?, valuesAs] using hbelow cs (hds.container hd)
      | leaf | leafList | list => simp [DataNode.containerChildren?, valuesAs]
    | list keys =>
      rw [fillingsFor]
      refine perm_named hds (n := ⟨head, .list keys, children⟩) rfl fun d hd => ?_
      cases d with
      | list q entries =>
        have hentries := hds.list hd
        rw [valuesAs, valuesOver_eq, DataNode.listEntries?, Option.map_some, Option.getD_some, List.map_flatMap]
        exact List.Perm.flatMap_left entries fun cs hcs => hbelow cs (hentries cs hcs)
      | leaf | leafList | container => simp [DataNode.listEntries?, valuesAs]
    | leaf type =>
      cases type with
      | none => exact absurd rfl (hr.nodes _ hn).typed.1
      | some t =>
        rw [fillingsFor]
        refine perm_named hds (n := ⟨head, .leaf (some t), children⟩) rfl fun d _ => ?_
        cases d <;> simp [DataNode.leafValue?, valuesAs, Filling.named]
    | leafList type =>
      cases type with
      | none => exact absurd rfl (hr.nodes _ hn).typed.2.1
      | some t =>
        rw [fillingsFor]
        refine perm_named hds (n := ⟨head, .leafList (some t), children⟩) rfl fun d _ => ?_
        cases d <;> simp [DataNode.leafListValues?, valuesAs, Filling.named]
    | choice | case | typedef | identity | other => simp [fillingsFor, Node.declares, NodeKind.isData]

theorem perm_fillingsForAll (nm : Namer) (hr : tree.Resolved) (hdata : DataDistinct tree) : ∀ (ns : List Node),
    (∀ n ∈ ns, n ∈ tree.nodes) → ∀ (ds : List DataNode), Unrepeated ds → (fillingsForAll nm ds ns).map Filling.named ~
      ns.flatMap fun n => ds.flatMap fun d => if Node.declares n d.name then valuesAs nm n d else []
  | [], _, ds, _ => by simp [fillingsForAll]
  | n :: ns, hns, ds, hds => by
    obtain ⟨hn, htail⟩ := List.forall_mem_cons.1 hns
    rw [fillingsForAll, List.map_append, List.flatMap_cons]
    exact (perm_fillingsFor nm hr hdata n hn ds hds).append (perm_fillingsForAll nm hr hdata ns htail ds hds)

end

/-! ## Data at the top -/

theorem dataNames_append (ms ns : List Node) : dataNames (ms ++ ns) = dataNames ms ++ dataNames ns := by
  induction ms with
  | nil => simp [dataNames]
  | cons m ms ih => simp [dataNames, ih]

/-- the data nodes at the top of all modules have different names -/
theorem DataDistinct.nodup_top (hdata : DataDistinct tree) (hr : tree.Resolved) (hd : tree.Distinct) :
    (dataNames tree.statements).Nodup := by
  have huri : ∀ m ∈ tree.modules, ∀ q ∈ dataNames m.statements, q.namespaceUri = m.namespaceUri := by
    intro m hm q hq
    rw [dataNames_eq] at hq
    obtain ⟨x, hx, rfl⟩ := List.mem_map.1 hq
    obtain ⟨n, hn, hxn⟩ := Node.mem_allIn.1 (mem_allIn_of_dataNodes _ hx)
    rw [(hr.place_of_mem_all (Tree.statement_mem_nodes hm hn) x hxn).1, (hr.top m hm n hn).1]
  have hsplit : ∀ ms : List Module,
      dataNames (ms.flatMap (·.statements)) = ms.flatMap fun m => dataNames m.statements := by
    intro ms
    induction ms with
    | nil => simp [dataNames]
    | cons m ms ih => simp [dataNames_append, ih]
  rw [Tree.statements, hsplit, List.nodup_flatMap]
  refine ⟨hdata.top, (List.pairwise_map.1 hd.namespaces).imp_of_mem fun {m m'} hm hm' hne q hq hq' => ?_⟩
  exact hne ((huri m hm q hq).symm.trans (huri m' hm' q hq'))

/-- the values of data at the top that a statement declares: a container has them, and nothing else there does -/
def valuesOfTop (nm : Namer) (n : Node) : DataNode → List (SymbolicName × Value)
  | .container q cs => valuesAs nm n (.container q cs)
  | _ => []

/-- the defaults of all statements are the values of the data at the top -/
theorem perm_topFillings (nm : Namer) (hr : tree.Resolved) (hd : tree.Distinct) (hdata : DataDistinct tree)
    {ds : List DataNode} (hds : Unrepeated ds) :
    (tree.statements.flatMap (topFillings nm ds)).map Filling.named ~ topValues nm tree ds := by
  have hnode : ∀ n ∈ tree.statements, (topFillings nm ds n).map Filling.named ~
      ds.flatMap fun d => if Node.declares n d.name then valuesOfTop nm n d else [] := by
    intro n hn
    obtain ⟨m, hm, hnm⟩ := List.mem_flatMap.1 hn
    have hfillings := perm_fillingsFor nm hr hdata n (Tree.statement_mem_nodes hm hnm) ds hds
    obtain ⟨head, kind, children⟩ := n
    cases kind with
    | container =>
      have hterms : ∀ d, valuesAs nm ⟨head, .container, children⟩ d = valuesOfTop nm ⟨head, .container, children⟩ d := by
        intro d
        cases d <;> simp [valuesAs, valuesOfTop]
      simp only [hterms] at hfillings
      exact hfillings
    | list | leaf | leafList | choice | case | typedef | identity | other =>
      refine List.Perm.of_eq ?_
      rw [topFillings, List.map_nil, eq_comm, List.flatMap_eq_nil_iff]
      intro d _
      cases d <;> simp [valuesOfTop, valuesAs]
  rw [List.map_flatMap]
  refine (List.Perm.flatMap_left _ hnode).trans ((perm_matched (hdata.nodup_top hr hd) ds (valuesOfTop nm)).trans ?_)
  refine List.Perm.of_eq (List.flatMap_congr fun d _ => ?_)
  generalize declared? d.name false tree.statements = found
  obtain _ | ⟨n, _ | _⟩ := found <;> cases d <;> rfl

/-! ## Data types of defaults -/

/-- a default of a member with the variable type of a node, which has the data type of the node -/
def TypedFor (nm : Namer) (tree : Tree) (f : Filling) : Prop :=
  ∃ x ∈ tree.nodes, ∃ r t, variableOf? x.kind = some (r, t) ∧ f.type = some (nm.typeName r x.head) ∧
    f.default.dataType = dataTypeFor nm t

mutual

theorem typedFor_fillingsFor (nm : Namer) : ∀ (n : Node), n ∈ tree.nodes → ∀ (ds : List DataNode),
    ∀ f ∈ fillingsFor nm ds n, TypedFor nm tree f
  | ⟨head, kind, children⟩, hn, ds, f, hf => by
    have hbelow := typedFor_fillingsForAll nm children fun c hc => Tree.child_mem_nodes hn hc
    cases kind with
    | container =>
      rw [fillingsFor] at hf
      cases hds : findChild? DataNode.containerChildren? head.name ds with
      | none => simp [hds] at hf
      | some cs => exact hbelow cs f (by simpa [hds] using hf)
    | list keys =>
      rw [fillingsFor] at hf
      cases hds : findChild? DataNode.listEntries? head.name ds with
      | none => simp [hds] at hf
      | some entries =>
        obtain ⟨cs, -, hcs⟩ : ∃ cs ∈ entries, f ∈ fillingsForAll nm cs children := by simpa [hds] using hf
        exact hbelow cs f hcs
    | leaf type =>
      cases type with
      | none => simp [fillingsFor] at hf
      | some t =>
        rw [fillingsFor] at hf
        cases hds : findChild? DataNode.leafValue? head.name ds with
        | none => simp [hds] at hf
        | some v =>
          obtain rfl : f = _ := by simpa [hds] using hf
          exact ⟨_, hn, .leaf, t, rfl, rfl, rfl⟩
    | leafList type =>
      cases type with
      | none => simp [fillingsFor] at hf
      | some t =>
        rw [fillingsFor] at hf
        cases hds : findChild? DataNode.leafListValues? head.name ds with
        | none => simp [hds] at hf
        | some vs =>
          obtain rfl : f = _ := by simpa [hds] using hf
          exact ⟨_, hn, .leafList, t, rfl, rfl, rfl⟩
    | choice | case | typedef | identity | other => simp [fillingsFor] at hf

theorem typedFor_fillingsForAll (nm : Namer) : ∀ (ns : List Node), (∀ n ∈ ns, n ∈ tree.nodes) → ∀ (ds : List DataNode),
    ∀ f ∈ fillingsForAll nm ds ns, TypedFor nm tree f
  | [], _, ds, f, hf => by simp [fillingsForAll] at hf
  | n :: ns, hns, ds, f, hf => by
    obtain ⟨hn, htail⟩ := List.forall_mem_cons.1 hns
    rw [fillingsForAll, List.mem_append] at hf
    rcases hf with hf | hf
    · exact typedFor_fillingsFor nm n hn ds f hf
    · exact typedFor_fillingsForAll nm ns htail ds f hf

end

/-- the variable type of a node has the data type of the node -/
theorem Traced.variableType (h : Traced tree p) {x : Node} (hx : x ∈ tree.nodes) {r : TypeRole} {t : TypeDef}
    (hk : variableOf? x.kind = some (r, t)) : ∃ d base rank, p.document.get? (p.namer.typeName r x.head) = some d ∧
      d.content = .variableType base (some (dataTypeFor p.namer t)) rank := by
  have hrole : r ∈ typeRoles x.kind ∧ r ≠ .identity := by
    rcases role_of_variableOf? hk with rfl | rfl <;> rcases kind_of_variableOf? hk with hkind | hkind <;>
      rw [hkind] at hk ⊢ <;> cases hk <;> exact ⟨List.mem_cons_self, by decide⟩
  obtain ⟨-, d, hget, hdrawn⟩ := h.typed hx hrole.1 hrole.2
  have hmem := hdrawn.drawn p.namer (Namer.Grows.refl _)
  rcases kind_of_variableOf? hk with hkind | hkind <;>
    · rw [hkind] at hk
      cases hk
      rw [typesFor, hkind, List.mem_singleton, Prod.mk.injEq] at hmem
      exact ⟨d, _, _, hget, by rw [hmem.2]; rfl⟩

/-! ## Result -/

/-- **Values are neither lost nor doubled nor mixed up.** In a schema with distinct names, whose data nodes stay distinct when
choices are looked through, and with data in which no two children of a node have one name: the defaults in the objects of the
design, with the names of their members, are the values of the leaves and leaf-lists below the containers at the top that no
choice declares, as often as they occur; and the data type of each default is that of the variable type of its member. A
translation that is told to leave out instances makes no defaults. -/
theorem translate_values {d : Document} (hresolve : d.resolve = .ok tree) (hd : tree.Distinct) (hdata : DataDistinct tree)
    {s : Settings} {data : List DataNode} (hunrepeated : Unrepeated data) {doc : ModelDocument}
    (h : translate s tree data = .ok doc) : ∃ p, run s tree data = (.ok (), p) ∧ p.document = doc ∧
      ((fillingsOf (doc.ofKind .object)).map Filling.named).Perm
        (topValues p.namer tree (if s.materialize then data else [])) ∧
      ∀ f ∈ fillingsOf (doc.ofKind .object), ∃ type e base rank, f.type = some type ∧ doc.get? type = some e ∧
        e.content = .variableType base (some f.default.dataType) rank := by
  obtain ⟨p, hrun, rfl⟩ := translate_eq_ok_iff.1 h
  have hr := Document.resolve_resolved hresolve
  have htraced := traced_of_run hr hd hrun
  have hused : Unrepeated (if s.materialize then data else []) := by
    split
    · exact hunrepeated
    · exact .intro List.nodup_nil (fun _ _ hc => by cases hc) fun _ _ hc => by cases hc
  have hstock : fillingsOf (p.document.ofKind .object) = p.stock.fillings := rfl
  have hfillings : p.stock.fillings ~
      tree.statements.flatMap (topFillings p.namer (if s.materialize then data else [])) := by
    rw [(run_traced hr hd hrun).2]
    simpa [Stock.fillings, Stock.empty, fillingsOf] using
      perm_foldl_top p.namer (if s.materialize then data else []) tree.statements .empty
  refine ⟨p, hrun, rfl, ?_, fun f hf => ?_⟩
  · rw [hstock]
    exact (hfillings.map _).trans (perm_topFillings p.namer hr hd hdata hused)
  · rw [hstock, hfillings.mem_iff] at hf
    obtain ⟨n, hn, hfn⟩ := List.mem_flatMap.1 hf
    obtain ⟨m, hm, hnm⟩ := List.mem_flatMap.1 hn
    have htop : f ∈ fillingsFor p.namer (if s.materialize then data else []) n := by
      unfold topFillings at hfn
      split at hfn
      · exact hfn
      · cases hfn
    obtain ⟨x, hx, r, t, hk, htype, hdataType⟩ :=
      typedFor_fillingsFor p.namer n (Tree.statement_mem_nodes hm hnm) _ f htop
    obtain ⟨e, base, rank, hget, hcontent⟩ := htraced.variableType hx hk
    exact ⟨_, e, base, rank, htype, hget, hdataType ▸ hcontent⟩

theorem mixedTree_dataDistinct : DataDistinct mixedTree :=
  ⟨by decide +kernel, by decide +kernel⟩

theorem mixedData_unrepeated : Unrepeated mixedData := by
  have hleaf : ∀ q v, Unrepeated [.leaf q v] := fun q v => .intro (by simp) (by simp) (by simp)
  refine .intro (by simp [mixedData]) (fun q cs hc => ?_) fun q es hl => by simp [mixedData] at hl
  obtain ⟨-, rfl⟩ : q = ⟨"u", "c"⟩ ∧ cs = _ := by simpa [mixedData] using hc
  refine .intro (by decide) (fun q cs hc => by simp at hc) fun q es hl ds hds => ?_
  obtain ⟨-, rfl⟩ : q = ⟨"u", "l"⟩ ∧ es = _ := by simpa using hl
  rcases List.mem_cons.1 hds with rfl | hds
  · exact hleaf _ _
  · obtain rfl := List.mem_singleton.1 hds
    exact hleaf _ _

/-- the leaf-list and the keys of the two entries keep their values; the leaf in the choice does not count -/
theorem mixedData_values : ∃ tree doc, mixedSchema.resolve = .ok tree ∧ tree.Distinct ∧ DataDistinct tree ∧
    Unrepeated mixedData ∧ translate (.default 0) tree mixedData = .ok doc ∧
    ((fillingsOf (doc.ofKind .object)).map fun f => f.default.value).Perm [.tuple [.text "Y"], .text "1", .text "2"] := by
  obtain ⟨doc, hdoc, -⟩ := translate_mixedData
  obtain ⟨p, -, -, hperm, -⟩ := translate_values resolve_mixedSchema mixedTree_distinct mixedTree_dataDistinct
    mixedData_unrepeated hdoc
  have hvalues := hperm.map Prod.snd
  rw [List.map_map] at hvalues
  exact ⟨mixedTree, doc, resolve_mixedSchema, mixedTree_distinct, mixedTree_dataDistinct, mixedData_unrepeated, hdoc, hvalues⟩

end YangDesign.Translate
