/-
Trees that a checked document resolves to are well formed.

`Tree.WellFormed` says at every depth where nodes stand, that bases of identities are identities and keys of lists are leaves,
and of each type that its chain has one built-in kind, ends at that built-in type, and carries labels exactly if the kind is
`enumeration`. The translation relies on each of these facts.

A type is made by references, one over the other, so what the checks make true of each reference (`TypeRef.Sound`) makes the
type well formed (`sound_of_denotes`). All types of a tree are made by references of the document, and so
`Document.resolve_wellFormed` puts this beside what resolution makes true of paths and bases.
-/
import YangDesign.Proofs.Schema.Spelling
import YangDesign.Proofs.Schema.Walk

namespace YangDesign.Schema

/-! ## Types -/

/-- a type whose chain has one built-in kind and ends at the type of that name, with labels exactly for an enumeration -/
structure TypeDef.WellFormed (t : TypeDef) : Prop where
  chain : ∃ b : BuiltIn, (∀ u ∈ t.chain, u.kind = .builtIn b) ∧
    ∃ root, t.chain.getLast? = some root ∧ root.base = none ∧ root.name.localName = b.name
  labels : t.kind = .builtIn .enumeration → t.enums ≠ [] ∧ (t.enums.map (·.name)).Nodup
  bare : t.kind ≠ .builtIn .enumeration → t.enums = []

/-- a tree in which everything stands in its place and refers to what there is -/
structure Tree.WellFormed (t : Tree) : Prop where
  namespaces : ∀ m ∈ t.modules, ∀ n ∈ m.nodes, n.head.name.namespaceUri = m.namespaceUri
  topPaths : ∀ m ∈ t.modules, ∀ n ∈ m.statements, n.head.path = [n.label]
  paths : ∀ n ∈ t.nodes, ∀ c ∈ n.children, c.head.path = n.head.path ++ [c.label]
  bases : ∀ n ∈ t.nodes, ∀ qs, n.kind = .identity qs → ∀ q ∈ qs, (t.identity? q).isSome
  keys : ∀ n ∈ t.nodes, ∀ keys, n.kind = .list keys → ∀ key ∈ keys,
    ∃ c ∈ n.children, c.label = key ∧ ∃ type, c.kind = .leaf type
  typed : ∀ n ∈ t.nodes, n.kind ≠ .leaf none ∧ n.kind ≠ .leafList none ∧ n.kind ≠ .typedef none
  types : ∀ type ∈ t.types, type.WellFormed

/-- a well-formed type, restricted in any way that keeps its kind and has labels exactly for an enumeration, is well formed -/
theorem TypeDef.WellFormed.derive {t b : TypeDef} (hb : b.WellFormed) (hbase : t.base = some b) (hkind : t.kind = b.kind)
    (hlabels : t.kind = .builtIn .enumeration → t.enums ≠ [] ∧ (t.enums.map (·.name)).Nodup)
    (hbare : t.kind ≠ .builtIn .enumeration → t.enums = []) : t.WellFormed := by
  obtain ⟨k, hk, root, hroot, hnone, hname⟩ := hb.chain
  refine ⟨⟨k, fun u hu => ?_, root, ?_, hnone, hname⟩, hlabels, hbare⟩
  · rw [TypeDef.chain_of_some hbase, List.mem_cons] at hu
    rcases hu with rfl | hu
    · exact hkind.trans (hk b b.self_mem_chain)
    · exact hk u hu
  · rw [TypeDef.chain_of_some hbase, List.getLast?_cons, hroot]
    rfl

/-- the types of a chain are well formed -/
def TypeDef.Sound (t : TypeDef) : Prop :=
  ∀ u ∈ t.chain, u.WellFormed

theorem TypeDef.Sound.derive {t b : TypeDef} (hb : b.Sound) (hbase : t.base = some b) (ht : t.WellFormed) : t.Sound := by
  intro u hu
  rw [TypeDef.chain_of_some hbase, List.mem_cons] at hu
  rcases hu with rfl | hu
  · exact ht
  · exact hb u hu

theorem TypeDef.Sound.over {inner : TypeDef} (h : inner.Sound) (x : Declaration) : (x.over inner).Sound :=
  have hinner := h inner inner.self_mem_chain
  h.derive rfl (hinner.derive rfl rfl hinner.labels hinner.bare)

theorem repeatedLabel?_eq_none_iff {seen : List String} {es : List EnumDecl} :
    repeatedLabel? seen es = none ↔ (es.map (·.name)).Nodup ∧ ∀ e ∈ es, e.name ∉ seen := by
  induction es generalizing seen with
  | nil => simp [repeatedLabel?]
  | cons e es ih =>
    unfold repeatedLabel?
    by_cases he : e.name ∈ seen
    · simp [he]
    · rw [if_neg (by simpa using he), ih, List.map_cons, List.nodup_cons, List.forall_mem_cons]
      constructor
      · rintro ⟨hnodup, hseen⟩
        refine ⟨⟨fun hmem => ?_, hnodup⟩, he, fun e' he' => fun hmem => hseen e' he' (List.mem_cons_of_mem _ hmem)⟩
        obtain ⟨e', he', heq⟩ := List.mem_map.1 hmem
        exact hseen e' he' (heq ▸ List.mem_cons_self)
      · rintro ⟨⟨hnot, hnodup⟩, -, hseen⟩
        refine ⟨hnodup, fun e' he' hmem => ?_⟩
        rcases List.mem_cons.1 hmem with heq | hmem
        · exact hnot (List.mem_map.2 ⟨e', he', heq⟩)
        · exact hseen e' he' hmem

theorem map_name_numberEnums (next : Int) (es : List EnumDecl) :
    (numberEnums next es).map (·.name) = es.map (·.name) := by
  induction es generalizing next with
  | nil => rfl
  | cons e es ih => simp [numberEnums, ih]

theorem nodup_of_resolveEnums {path : List String} {es : List EnumDecl} {enums : List EnumValue}
    (h : resolveEnums path es = .ok enums) : (enums.map (·.name)).Nodup ∧ (enums = [] ↔ es = []) := by
  unfold resolveEnums at h
  split at h
  · cases h
  · rename_i hnone
    cases h
    refine ⟨?_, by cases es <;> simp [numberEnums]⟩
    rw [map_name_numberEnums]
    exact (repeatedLabel?_eq_none_iff.1 hnone).1

/-- a reference to the built-in type `enumeration` has that name -/
theorem TypeRef.name_eq_of_builtIn? {ref : TypeRef} {b : BuiltIn} (h : ref.builtIn? = some b) : ref.name = b.name := by
  rw [TypeRef.name_of_builtIn? h]
  unfold TypeRef.builtIn? Text.splitQualified at h
  unfold Text.splitQualified
  split at h
  · rename_i hsplit
    split at hsplit
    · rfl
    · cases hsplit
  · cases h

/-- the references of the typedefs in scope are sound -/
def Scope.Sound (scope : Scope) : Prop :=
  ∀ f ∈ scope, ∀ d ∈ f, d.type.Sound

/-- the references of the typedefs that modules offer are sound -/
def Surroundings.Sound (env : Surroundings) : Prop :=
  ∀ uri f, env.frames.find? uri = some f → ∀ d ∈ f, d.type.Sound

theorem refsIn_of_soundIn {ss : List Statement} (h : SoundIn ss) : RefsIn TypeRef.Sound ss := by
  intro s hs r hr
  cases s with
  | other keyword argument => cases hr
  | named name description construct children => exact (h _ hs).2 r hr

/-- **References that the checks admit make well-formed types.** -/
theorem sound_of_denotes {env : Surroundings} (henv : env.Sound) {ref : TypeRef} {uri : String} {owner : List String} {scope : Scope} {t : TypeDef}
    (hscope : scope.Sound) (href : ref.Sound) (h : Denotes env.Binds ref uri owner scope t) :
    t.Sound := by
  induction h with
  | @builtIn ref uri owner scope b enums hbuilt henums hfit =>
    obtain ⟨hnodup, hempty⟩ := nodup_of_resolveEnums henums
    intro u hu
    rw [TypeDef.chain_of_none rfl, List.mem_singleton] at hu
    subst hu
    refine ⟨⟨b, fun u hu => ?_, _, by rw [TypeDef.chain_of_none rfl]; rfl, rfl, rfl⟩, fun hkind => ⟨?_, hnodup⟩,
      fun hkind => hfit.resolve_right fun heq => hkind (heq ▸ rfl)⟩
    · rw [TypeDef.chain_of_none rfl, List.mem_singleton] at hu
      rw [hu]
    · obtain rfl : b = .enumeration := by
        cases hkind
        rfl
      exact fun heq => href.enums (TypeRef.name_eq_of_builtIn? hbuilt) (hempty.1 heq)
  | @typedef ref uri owner scope x inner enums hnone hx _ henums hfit ih =>
    obtain ⟨hx, hscope'⟩ := forall_of_binds henv hscope hx
    have hover := (ih hscope' hx).over x
    have hbase := hover _ (x.over inner).self_mem_chain
    obtain ⟨hnodup, -⟩ := nodup_of_resolveEnums henums
    unfold TypeRef.refine
    split
    · exact hover
    · refine hover.derive rfl (hbase.derive rfl rfl (fun hkind => ?_) fun hkind => ?_)
      · dsimp only
        split
        · exact hbase.labels hkind
        · rename_i hne
          exact ⟨by simpa using hne, hnodup⟩
      · dsimp only
        split
        · exact hbase.bare hkind
        · exact hfit.resolve_right hkind

/-! ## Nodes -/

/-- the keys of a node are leaves below it, and its type is well formed with all its bases -/
structure Node.Grounded (n : Node) : Prop where
  keys : ∀ keys, n.kind = .list keys → ∀ key ∈ keys, ∃ c ∈ n.children, c.label = key ∧ ∃ type, c.kind = .leaf type
  types : ∀ t, n.kind.type? = some t → t.Sound

theorem mem_leafNames {ns : List Node} {name : String} (h : name ∈ leafNames ns) :
    ∃ n ∈ ns, n.label = name ∧ ∃ type, n.kind = .leaf type := by
  obtain ⟨n, hn, hname⟩ := List.mem_filterMap.1 h
  split at hname
  · rename_i type hkind
    cases hname
    exact ⟨n, hn, rfl, type, hkind⟩
  · cases hname

/-! ## Trees -/

theorem Document.grounded_of_resolve {d : Document} (hd : ∀ m ∈ d.modules, SoundIn m.statements) {t : Tree}
    (h : d.resolve = .ok t) : ∀ n ∈ t.nodes, n.Grounded := by
  obtain ⟨env, -, henv, hnodes⟩ := Document.madeOf_resolve (fun m hm => refsIn_of_soundIn (hd m hm)) h
  refine fun n hn => ⟨fun keys hkeys key hkey => mem_leafNames ((hnodes n hn).keys keys hkeys key hkey), fun u hu => ?_⟩
  cases (hnodes n hn).types u hu with
  | use href hscope hdenotes => exact sound_of_denotes henv hscope href hdenotes
  | @typedef x inner href hscope hdenotes => exact (sound_of_denotes henv hscope href hdenotes).over x

/-- **Checked documents resolve to well-formed trees.** -/
theorem Document.resolve_wellFormed {v : Value} {d : Document} (hcheck : Document.check v = .ok d) {t : Tree}
    (h : d.resolve = .ok t) : t.WellFormed := by
  have hresolved := Document.resolve_resolved h
  have hgrounded := Document.grounded_of_resolve (Document.sound_of_check hcheck) h
  refine ⟨fun m hm n hn => ?_, fun m hm n hn => (hresolved.top m hm n hn).2,
    fun n hn c hc => ((hresolved.nodes n hn).below c hc).2, fun n hn qs hk q hq => ?_, fun n hn => (hgrounded n hn).keys,
    fun n hn => (hresolved.nodes n hn).typed, fun type htype => ?_⟩
  · have hall := Node.allIn_induct
      (P := fun x => x ∈ t.nodes ∧ x.head.name.namespaceUri = m.namespaceUri)
      (fun x hx c hc => ⟨Tree.child_mem_nodes hx.1 hc, ((hresolved.nodes x hx.1).below c hc).1.trans hx.2⟩) m.statements
      fun x hx => ⟨Tree.statement_mem_nodes hm hx, (hresolved.top m hm x hx).1⟩
    exact (hall n hn).2
  · obtain ⟨i, hi, rfl⟩ := List.mem_map.1 ((hresolved.nodes n hn).bases qs hk q hq)
    exact Tree.identity?_isSome hi
  · obtain ⟨n, hn, hun⟩ := List.mem_flatMap.1 htype
    unfold Node.types at hun
    split at hun
    · rename_i r hr
      exact (hgrounded n hn).types r hr type hun
    · cases hun

/-- a schema with an identity below another, a list with a key, an enumeration that a leaf in a choice adds to -/
def portSchema : Value :=
  let named := fun (kind name : String) (members : List (Value × Value)) =>
    Value.map ((.text "kind", .text kind) :: (.text "name", .text name) :: members)
  let label := fun (name : String) => Value.map [(.text "name", .text name)]
  .map [(.text "modules", .list [.map [(.text "name", .text "m"), (.text "namespace", .text "urn:m"),
    (.text "prefix", .text "m"), (.text "statements", .list [
      named "identity" "media" [],
      named "identity" "copper" [(.text "bases", .list [.text "media"])],
      named "typedef" "status" [(.text "type", .map [(.text "name", .text "enumeration"),
        (.text "enums", .list [label "up", label "down"])])],
      named "list" "port" [(.text "key", .list [.text "name"]), (.text "children", .list [
        named "leaf" "name" [(.text "type", .text "string")],
        named "choice" "state" [(.text "cases", .list [
          named "leaf" "link" [(.text "type", .map [(.text "name", .text "status"),
            (.text "description", .text "link state")])]])]])]])]])]

/-- its document -/
def portDocument : Document :=
  let status : TypeRef := ⟨"enumeration", some [⟨"up", none, none⟩, ⟨"down", none, none⟩], none⟩
  ⟨[⟨"m", "urn:m", "m", none, [
    .named "media" none (.identity []) [],
    .named "copper" none (.identity ["media"]) [],
    .named "status" none (.typedef status) [],
    .named "port" none (.list ["name"]) [
      .named "name" none (.leaf ⟨"string", none, none⟩) [],
      .named "state" none .choice [.named "link" none (.leaf ⟨"status", none, some "link state"⟩) []]]]⟩]⟩

theorem portSchema_wellFormed : Document.check portSchema = .ok portDocument ∧
    ∃ t, portDocument.resolve = .ok t ∧ t.nodes.length = 8 ∧ t.WellFormed := by
  have hcheck : Document.check portSchema = .ok portDocument := rfl
  have hcount : portDocument.resolve.map (·.nodes.length) = .ok 8 := rfl
  cases h : portDocument.resolve with
  | error e =>
    rw [h] at hcount
    cases hcount
  | ok t =>
    rw [h] at hcount
    exact ⟨hcheck, t, rfl, Except.ok.inj hcount, Document.resolve_wellFormed hcheck h⟩

end YangDesign.Schema
