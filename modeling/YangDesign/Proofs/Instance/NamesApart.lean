/-
Documents in which no two members of an object stand for one name.

Members that differ as texts may stand for one name: `x` and `m:x` below a node of the module `m`, or the names of two modules
of one namespace. Decoding takes both. `NamesApart` says of a document that this happens in no object of it;
`decode_unrepeated_iff`: these are the documents whose data repeats no name among siblings.
-/
import YangDesign.Proofs.Instance.Representation
import YangDesign.Proofs.Schema.WellFormed

namespace YangDesign.Instance

open Schema

/-- a value that has neither members nor items -/
def IsScalar (v : Value) : Prop :=
  (∀ ms, v.head ≠ .map ms) ∧ ∀ es, v.head ≠ .list es

/-- no two members of an object stand for one name, at any depth; a name without a module is in the namespace around it -/
inductive NamesApart (tree : Tree) : Option String → Value → Prop where
  | object {uri : Option String} {v : Value} {ms : List (Value × Value)} : v.head = .map ms →
    (ms.map fun m => denoted? tree uri m.1).Nodup →
    (∀ m ∈ ms, ∀ q, denoted? tree uri m.1 = some q → NamesApart tree (some q.namespaceUri) m.2) → NamesApart tree uri v
  | array {uri : Option String} {v : Value} {es : List Value} : v.head = .list es →
    (∀ e ∈ es, NamesApart tree uri e) → NamesApart tree uri v
  | scalar {uri : Option String} {v : Value} : IsScalar v → NamesApart tree uri v

section Shapes

variable {tree : Tree} {uri : Option String} {v : Value}

theorem namesApart_object_iff {ms : List (Value × Value)} (hv : v.head = .map ms) :
    NamesApart tree uri v ↔ (ms.map fun m => denoted? tree uri m.1).Nodup ∧
      ∀ m ∈ ms, ∀ q, denoted? tree uri m.1 = some q → NamesApart tree (some q.namespaceUri) m.2 := by
  refine ⟨fun h => ?_, fun h => .object hv h.1 h.2⟩
  cases h with
  | object hv' hnodup hms =>
    cases hv.symm.trans hv'
    exact ⟨hnodup, hms⟩
  | array hv' => cases hv.symm.trans hv'
  | scalar hs => exact absurd hv (hs.1 ms)

theorem namesApart_array_iff {es : List Value} (hv : v.head = .list es) :
    NamesApart tree uri v ↔ ∀ e ∈ es, NamesApart tree uri e := by
  refine ⟨fun h => ?_, .array hv⟩
  cases h with
  | object hv' => cases hv.symm.trans hv'
  | array hv' hes =>
    cases hv.symm.trans hv'
    exact hes
  | scalar hs => exact absurd hv (hs.2 es)

end Shapes

/-! ## Values of leaves -/

theorem decodeInt_scalar {b : BuiltIn} {range : Int × Int} {v w : Value} (h : decodeInt b range v = .ok w) : IsScalar v := by
  unfold decodeInt at h
  split at h
  · cases h
  · rename_i i hi
    cases v with
    | int | text => exact ⟨nofun, nofun⟩
    | _ => cases hi

/-- what is accepted for a built-in type is a scalar, or the array that stands for an empty value -/
theorem decodeBuiltIn_shape {b : BuiltIn} {enums : List EnumValue} {v w : Value} (h : decodeBuiltIn b enums v = .ok w) :
    IsScalar v ∨ v = .list [.null] := by
  unfold decodeBuiltIn at h
  split at h
  · exact Or.inl (decodeInt_scalar h)
  · split at h
    · split at h
      · rename_i d hd
        cases v with
        | int | float | text => exact Or.inl ⟨nofun, nofun⟩
        | _ => cases hd
      · cases h
    · split at h <;> cases h
      exact Or.inl ⟨nofun, nofun⟩
    · split at h <;> cases h
      exact Or.inr rfl
    · split at h
      · exact Or.inl ⟨nofun, nofun⟩
      · cases h
    · split at h
      · cases h
      · cases h
      · rename_i hmap hlist
        exact Or.inl ⟨hmap, hlist⟩
    · split at h <;> cases h <;> exact Or.inl ⟨nofun, nofun⟩

section Siblings

variable {tree : Tree}

theorem namesApart_of_builtIn {uri : Option String} {b : BuiltIn} {enums : List EnumValue} {v w : Value}
    (h : decodeBuiltIn b enums v = .ok w) : NamesApart tree uri v := by
  rcases decodeBuiltIn_shape h with hs | rfl
  · exact .scalar hs
  · exact .array rfl (List.forall_mem_singleton.2 (.scalar ⟨nofun, nofun⟩))

/-- the value of a leaf of a well-formed schema has no members -/
theorem namesApart_of_leafValue (ht : tree.WellFormed) {n : Node} (hn : n ∈ tree.nodes) {type : Option TypeDef}
    (htype : n.kind.type? = type) {uri : Option String} {v w : Value} (h : LeafValue type v w) : NamesApart tree uri v := by
  unfold LeafValue decodeLeaf at h
  rw [mapError_eq_ok_iff] at h
  cases type with
  | none => exact namesApart_of_builtIn h
  | some t =>
    obtain ⟨b, hchain, -⟩ := (ht.types t (Tree.type_mem_types hn htype)).chain
    have hkind : t.kind = .builtIn b := hchain t t.self_mem_chain
    simp only [hkind] at h
    exact namesApart_of_builtIn h

/-! ## Siblings -/

/-- no two siblings below a data node have one name -/
def UnrepeatedBelow : DataNode → Prop
  | .container _ cs => Unrepeated cs
  | .list _ es => ∀ cs ∈ es, Unrepeated cs
  | _ => True

theorem unrepeated_iff {ds : List DataNode} :
    Unrepeated ds ↔ (ds.map DataNode.name).Nodup ∧ ∀ d ∈ ds, UnrepeatedBelow d := by
  constructor
  · intro h
    refine ⟨h.nodup, fun d hd => ?_⟩
    cases d with
    | leaf | leafList => exact trivial
    | container q cs => exact h.container hd
    | list q es => exact h.list hd
  · rintro ⟨hnodup, hbelow⟩
    exact .intro hnodup (fun q cs hd => hbelow _ hd) fun q es hd => hbelow _ hd

/-- members that stand for the names of data nodes, one for one, with the same said of what is below -/
theorem unrepeated_iff_of_members {uri : Option String} {v : Value} {ms : List (Value × Value)} {ds : List DataNode}
    (hv : v.head = .map ms)
    (h : List.Forall₂ (fun m d => denoted? tree uri m.1 = some d.name ∧
      (UnrepeatedBelow d ↔ NamesApart tree (some d.name.namespaceUri) m.2)) ms ds) :
    Unrepeated ds ↔ NamesApart tree uri v := by
  have hnames : (ms.map fun m => denoted? tree uri m.1) = (ds.map DataNode.name).map some := by
    clear hv
    induction h with
    | nil => rfl
    | cons hmd _ ih => rw [List.map_cons, List.map_cons, List.map_cons, hmd.1, ih]
  have hbelow : (∀ d ∈ ds, UnrepeatedBelow d) ↔
      ∀ m ∈ ms, ∀ q, denoted? tree uri m.1 = some q → NamesApart tree (some q.namespaceUri) m.2 := by
    clear hv hnames
    induction h with
    | nil => simp
    | cons hmd _ ih =>
      rw [List.forall_mem_cons, List.forall_mem_cons, ih, hmd.2, hmd.1]
      simp only [Option.some.injEq, forall_eq']
  rw [unrepeated_iff, namesApart_object_iff hv, hnames, List.nodup_map_iff (Option.some_injective _), hbelow]

theorem Represents.name {n : Node} {v : Value} {d : DataNode} (h : Represents tree n v d) : d.name = n.head.name := by
  cases h <;> rfl

/-- data of a node repeats no name below it exactly if the value keeps the names apart -/
def KeepsApart (tree : Tree) (n : Node) : Prop :=
  ∀ v d, Represents tree n v d → (UnrepeatedBelow d ↔ NamesApart tree (some n.head.name.namespaceUri) v)

theorem unrepeated_iff_of_represents {uri : Option String} {ns : List Node} {v : Value} {ms : List (Value × Value)}
    {ds : List DataNode} (hv : v.head = .map ms) (ih : ∀ n ∈ dataNodes ns, KeepsApart tree n)
    (h : List.Forall₂ (fun m d => ∃ q n, denoted? tree uri m.1 = some q ∧ nodeAt? ns q = some n ∧ Represents tree n m.2 d) ms ds) :
    Unrepeated ds ↔ NamesApart tree uri v := by
  refine unrepeated_iff_of_members hv (h.imp fun m d hmd => ?_)
  obtain ⟨q, n, hq, hn, hd⟩ := hmd
  have hname : d.name = q := hd.name.trans (name_of_nodeAt? hn)
  refine ⟨hname ▸ hq, ?_⟩
  rw [hd.name]
  exact ih n (List.mem_of_find?_eq_some hn) m.2 d hd

theorem unrepeated_iff_of_entries {uri : String} {ns : List Node} {es : List Value} {entries : List (List DataNode)}
    (ih : ∀ n ∈ dataNodes ns, KeepsApart tree n) (h : RepresentsEntries tree ns uri es entries) :
    (∀ ds ∈ entries, Unrepeated ds) ↔ ∀ e ∈ es, NamesApart tree (some uri) e := by
  induction es generalizing entries with
  | nil =>
    cases h
    simp
  | cons e es ihes =>
    cases h with
    | cons he hms hes =>
      rw [List.forall_mem_cons, List.forall_mem_cons, ihes hes,
        unrepeated_iff_of_represents he ih (representsMembers_iff.1 hms)]

theorem keepsApart_of_mem (ht : tree.WellFormed) : ∀ n ∈ tree.nodes, KeepsApart tree n := by
  refine fun n => data_induct (P := fun n => n ∈ tree.nodes → KeepsApart tree n) (fun n ih hn v d hd => ?_) n
  have hbelow : ∀ m ∈ dataNodes n.children, KeepsApart tree m := fun m hm =>
    ih m hm (Node.allIn_induct (fun x hx c hc => Tree.child_mem_nodes hx hc) n.children
      (fun c hc => Tree.child_mem_nodes hn hc) m (mem_allIn_of_dataNodes _ hm))
  cases hd with
  | container hv hms => exact unrepeated_iff_of_represents hv hbelow (representsMembers_iff.1 hms)
  | list hv hes => exact (unrepeated_iff_of_entries hbelow hes).trans (namesApart_array_iff hv).symm
  | leaf hw => exact iff_of_true trivial (namesApart_of_leafValue ht hn rfl hw)
  | leafList hv hws =>
    refine iff_of_true trivial ((namesApart_array_iff hv).2 fun v hv => ?_)
    obtain ⟨w, -, hw⟩ := forall₂_mem_left hws hv
    exact namesApart_of_leafValue ht hn rfl hw

/-- **Data without repetitions.** The data of a document names no two siblings alike exactly if no two members of an object
of the document stand for one name. -/
theorem decode_unrepeated_iff {v : Value} {doc : Document} (hcheck : Document.check v = .ok doc)
    (hresolve : doc.resolve = .ok tree) {ms : List (Value × Value)} {ds : List DataNode}
    (hdecode : decode tree ms = .ok ds) : Unrepeated ds ↔ NamesApart tree none (.map ms) := by
  have ht := Document.resolve_wellFormed hcheck hresolve
  refine unrepeated_iff_of_members rfl ((decode_eq_ok_iff.1 hdecode).imp fun m d hmd => ?_)
  obtain ⟨key, label, localName, module, n, hkey, hsplit, hmodule, hn, hd⟩ := hmd
  have hname : d.name = ⟨module.namespaceUri, localName⟩ := hd.name.trans (name_of_nodeAt? hn)
  have hnode : n ∈ tree.nodes := Tree.mem_nodes.2 ⟨module, List.mem_of_find?_eq_some hmodule,
    mem_allIn_of_dataNodes _ (List.mem_of_find?_eq_some hn)⟩
  constructor
  · refine denoted?_eq_some_iff.2 ⟨key, hkey, ?_⟩
    simp only [nameOf?, hsplit, hmodule, Option.map_some, hname]
  · rw [hd.name]
    exact keepsApart_of_mem ht n hnode m.2 d hd

end Siblings

/-! ## A leaf named twice -/

/-- a schema with a leaf in a container -/
def cellSchema : Value :=
  let named := fun (kind name : String) (members : List (Value × Value)) =>
    Value.map ((.text "kind", .text kind) :: (.text "name", .text name) :: members)
  .map [(.text "modules", .list [.map [(.text "name", .text "m"), (.text "namespace", .text "urn:m"),
    (.text "prefix", .text "m"), (.text "statements", .list [
      named "container" "c" [(.text "children", .list [named "leaf" "x" [(.text "type", .text "string")]])]])]])]

/-- its document -/
def cellDocument : Document :=
  ⟨[⟨"m", "urn:m", "m", none, [.named "c" none .container [.named "x" none (.leaf ⟨"string", none, none⟩) []]]⟩]⟩

/-- the tree of the document -/
def cellTree : Tree :=
  ⟨[⟨"m", "urn:m", "m", [⟨⟨⟨"urn:m", "c"⟩, ["c"], none⟩, .container,
    [⟨⟨⟨"urn:m", "x"⟩, ["c", "x"], none⟩,
      .leaf (some ⟨⟨"urn:m", "string"⟩, ["c", "x", "string"], .builtIn .string, none, [], none⟩), []⟩]⟩], none⟩]⟩

/-- a document with some members in the container -/
def cell (members : List (String × String)) : List (Value × Value) :=
  [(.text "m:c", .map (members.map fun p => (.text p.1, .text p.2)))]

/-- the container with values of the leaf -/
def cellData (values : List String) : List DataNode :=
  [.container ⟨"urn:m", "c"⟩ (values.map fun s => .leaf ⟨"urn:m", "x"⟩ (.text s))]

/-- the leaf is there once -/
theorem cell_unrepeated : Document.check cellSchema = .ok cellDocument ∧ cellDocument.resolve = .ok cellTree ∧
    decode cellTree (cell [("x", "1")]) = .ok (cellData ["1"]) ∧
    (Unrepeated (cellData ["1"]) ↔ NamesApart cellTree none (.map (cell [("x", "1")]))) ∧
    NamesApart cellTree none (.map (cell [("x", "1")])) := by
  have hcheck : Document.check cellSchema = .ok cellDocument := rfl
  have hresolve : cellDocument.resolve = .ok cellTree := rfl
  have hdecode : decode cellTree (cell [("x", "1")]) = .ok (cellData ["1"]) := by
    cbv
  have hiff := decode_unrepeated_iff hcheck hresolve hdecode
  have hinside : Unrepeated [.leaf ⟨"urn:m", "x"⟩ (.text "1")] :=
    unrepeated_iff.2 ⟨List.nodup_singleton _, List.forall_mem_singleton.2 trivial⟩
  have hunrepeated : Unrepeated (cellData ["1"]) :=
    unrepeated_iff.2 ⟨List.nodup_singleton _, List.forall_mem_singleton.2 hinside⟩
  exact ⟨hcheck, hresolve, hdecode, hiff, hiff.1 hunrepeated⟩

/-- members with unlike names, each of them the leaf: there are two siblings of one name -/
theorem cell_repeated : ∃ members : List (String × String), (members.map Prod.fst).Nodup ∧
    Document.check cellSchema = .ok cellDocument ∧ cellDocument.resolve = .ok cellTree ∧
    decode cellTree (cell members) = .ok (cellData ["1", "2"]) ∧ ¬Unrepeated (cellData ["1", "2"]) := by
  have hdecode : decode cellTree (cell [("x", "1"), ("m:x", "2")]) = .ok (cellData ["1", "2"]) := by
    cbv
  refine ⟨[("x", "1"), ("m:x", "2")], by decide, rfl, rfl, hdecode, fun h => ?_⟩
  have hnodup := (h.container List.mem_cons_self).nodup
  exact absurd hnodup (by decide)

end YangDesign.Instance
