/-
What the prefixes of a document stand for.

`Document.referring` lists the leaves, leaf-lists, typedefs and identities of a document. A name that one of them refers to
is read in the namespace that its prefix stands for, or in that of the module if it has none (`Document.Qualifies`).

Prefixes and names of modules share one table, in which the last module of a label counts, while a document is checked for
names that are distinct and for prefixes that are distinct, but not for a prefix that is the name of another module.
`Document.resolve_prefixes`: each reference is read by that table, and a module is what its own prefix stands for exactly if
no later module of another namespace has that prefix as its name; likewise for its name and the prefixes of later modules.
-/
import YangDesign.Proofs.Schema.WellFormed

namespace YangDesign.Schema

/-! ## References -/

/-- whether a construct refers to typedefs or identities -/
def Construct.refers : Construct → Bool
  | .leaf _ | .leafList _ | .typedef _ | .identity _ => true
  | .container | .list _ | .choice | .case => false

/-- whether a node has the type or the bases of a construct that refers to them -/
def Node.refers (n : Node) : Bool :=
  match n.kind with
  | .leaf _ | .leafList _ | .typedef _ | .identity _ => true
  | _ => false

mutual

/-- the statements in a statement that refer to typedefs or identities, in document order -/
def Statement.referring : Statement → List Statement
  | .other .. => []
  | .named name description construct children =>
    if construct.refers then [.named name description construct children] else referringIn children

/-- the statements in a statement list that refer to typedefs or identities, in document order -/
def referringIn : List Statement → List Statement
  | [] => []
  | s :: ss => s.referring ++ referringIn ss

end

/-- the type of the typedef that a reference names, within the type made of it: that type, if the reference adds nothing -/
def TypeRef.named? (ref : TypeRef) (t : TypeDef) : Option TypeDef :=
  if (ref.enums.getD []).isEmpty && ref.description.isNone then some t else t.base

namespace Document

/-- the referring statements of a document in its order, each with the namespace of its module -/
def referring (d : Document) : List (String × Statement) :=
  d.modules.flatMap fun m => (referringIn m.statements).map (m.namespaceUri, ·)

/-- what a name stands for, where it is used in a namespace -/
def Qualifies (d : Document) (uri name : String) (q : QName) : Prop :=
  q.localName = (Text.splitQualified name).2 ∧
    match (Text.splitQualified name).1 with
    | none => q.namespaceUri = uri
    | some label => d.namespaceOf? label = some q.namespaceUri

/-- a type is made of that of a typedef of the document that the name of a reference stands for, unless that names a built-in
type -/
def Takes (d : Document) (uri : String) (ref : TypeRef) (t : TypeDef) : Prop :=
  ref.builtIn? = none → ∃ x inner, ref.named? t = some (x.over inner) ∧ (∃ scope, d.Binds ref.name uri scope x) ∧
    d.Qualifies uri ref.name (x.over inner).name

/-- a node has what the references of its statement stand for; the reference of a typedef node is that of its own statement,
unless that is not found in the list in which it is looked up -/
def Reads (d : Document) (uri : String) : Statement → Node → Prop
  | .other .., _ => False
  | .named name _ construct _, n => n.head.name = ⟨uri, name⟩ ∧
    match construct with
    | .leaf type => ∃ t, n.kind = .leaf (some t) ∧ d.Takes uri type t
    | .leafList type => ∃ t, n.kind = .leafList (some t) ∧ d.Takes uri type t
    | .typedef type => ∃ t inner ref, n.kind = .typedef (some t) ∧ t.name = ⟨uri, name⟩ ∧ t.base = some inner ∧
      d.Takes uri ref inner ∧ (d.Apart → d.CasesPlain → ref = type)
    | .identity bases => ∃ qs, n.kind = .identity qs ∧ List.Forall₂ (d.Qualifies uri) bases qs
    | _ => False

end Document

theorem Innermost.name_eq {name : String} {scope s : Scope} {t : TypedefDecl} (h : Innermost name scope t s) :
    t.name = name := by
  induction h with
  | here _ hname => exact hname
  | outer _ _ ih => exact ih

/-- the type of the typedef is the one that the reference refines -/
theorem TypeRef.named?_refine {ref : TypeRef} {uri : String} {owner : List String} {enums : List EnumValue}
    {base : TypeDef} (h : resolveEnums owner (ref.enums.getD []) = .ok enums) :
    ref.named? (ref.refine uri owner enums base) = some base := by
  have hempty : (ref.enums.getD []).isEmpty = enums.isEmpty := by
    rw [Bool.eq_iff_iff, List.isEmpty_iff, List.isEmpty_iff]
    exact (nodup_of_resolveEnums h).2.symm
  unfold TypeRef.named? TypeRef.refine
  rw [hempty]
  split <;> rfl

namespace Document

variable {d : Document} {env : Surroundings}

theorem Binds.qualifies {name uri : String} {scope : Scope} {x : Declaration} (h : d.Binds name uri scope x) :
    d.Qualifies uri name ⟨x.uri, x.typedef.name⟩ := by
  cases h with
  | own hlabel ht =>
    refine ⟨ht.name_eq, ?_⟩
    split
    · rfl
    · rename_i label hname
      exact hlabel label hname
  | foreign hname _ hlabel _ ht =>
    refine ⟨ht.name_eq, ?_⟩
    rw [hname]
    exact hlabel

/-- what a reference denotes is made of the typedef that its name stands for -/
theorem takes_of_denotes (h : d.surroundings = .ok env) {ref : TypeRef} {uri : String} {owner : List String}
    {scope : Scope} {t : TypeDef} (ht : Denotes env.Binds ref uri owner scope t) : d.Takes uri ref t := by
  intro hnone
  cases ht with
  | builtIn hbuilt => rw [hnone] at hbuilt; cases hbuilt
  | @typedef _ _ _ _ x inner enums _ hx _ henums _ =>
    have hbinds := binds_of_lookUp h hx
    exact ⟨x, inner, TypeRef.named?_refine henums, ⟨_, hbinds⟩, hbinds.qualifies⟩

theorem qualifies_of_resolveBase (h : d.surroundings = .ok env) {uri : String} {path : List String} {name : String}
    {q : QName} (hq : resolveBase env uri path name = .ok q) : d.Qualifies uri name q := by
  have found : ∀ {uri' : String}, (if env.identities.contains ⟨uri', (Text.splitQualified name).2⟩ then
      pure ⟨uri', (Text.splitQualified name).2⟩ else refuse path (.unresolvedBase name) : Resolved QName) = .ok q →
      q = ⟨uri', (Text.splitQualified name).2⟩ := by
    intro uri' hq
    split at hq <;> cases hq
    rfl
  unfold resolveBase at hq
  unfold Qualifies
  dsimp only at hq
  cases hlabel : (Text.splitQualified name).1 with
  | none =>
    rw [hlabel] at hq
    obtain rfl := found hq
    exact ⟨rfl, rfl⟩
  | some label =>
    rw [hlabel] at hq
    obtain ⟨uri', huri, hq⟩ := ok_of_bind hq
    obtain rfl := found hq
    have hfound : d.namespaceOf? label = some uri' := by
      rw [← namespaces_of_surroundings h]
      exact Surroundings.namespaceOf_eq_ok_iff.1 huri
    exact ⟨rfl, hfound⟩

/-! ## Along the walk -/

/-- what holds of an answer, if there is one -/
abbrev Answers {α : Type} (x : Resolved α) (answer : α → Prop) : Prop :=
  Outcome x answer fun _ => True

theorem answers {α : Type} {x : Resolved α} {answer : α → Prop} (h : ∀ a, x = .ok a → answer a) : Answers x answer := by
  cases x with
  | ok a => exact h a rfl
  | error e => trivial

/-- nodes beside the referring statements that they come from -/
def ReadIn (d : Document) (uri : String) (ss : List Statement) (ns : List Node) : Prop :=
  List.Forall₂ (d.Reads uri) ss (ns.filter Node.refers)

theorem ReadIn.append {uri : String} {ss ts : List Statement} {ns ms : List Node} (hs : d.ReadIn uri ss ns)
    (ht : d.ReadIn uri ts ms) : d.ReadIn uri (ss ++ ts) (ns ++ ms) := by
  unfold ReadIn
  rw [List.filter_append]
  exact List.rel_append hs ht

theorem ReadIn.cons {uri : String} {ss : List Statement} {n : Node} {ns : List Node} (h : d.ReadIn uri ss ns)
    (hn : n.refers = false) : d.ReadIn uri ss (n :: ns) := by
  unfold ReadIn
  rw [List.filter_cons_of_neg (by simp [hn])]
  exact h

/-- a construct that refers to something makes a node that has it; any other a node that refers to nothing -/
theorem reads_resolveConstruct (h : d.surroundings = .ok env) (uri : String) (parent : List String) (scope : Scope)
    (name : String) (description : Option String) (construct : Construct) (ss : List Statement) (children : List Node)
    (hown : d.Apart → d.CasesPlain → ∀ t, (Statement.named name description construct ss).typedef? parent = some t →
      (scope.headD []).find? t.name = some t) :
    Answers (resolveConstruct env (afresh env) uri (parent ++ [name]) scope name children construct) fun kind =>
      Node.refers ⟨⟨⟨uri, name⟩, parent ++ [name], description⟩, kind, children⟩ = construct.refers ∧
      (construct.refers = true → d.Reads uri (.named name description construct ss)
        ⟨⟨⟨uri, name⟩, parent ++ [name], description⟩, kind, children⟩) := by
  have htype : ∀ type, Answers (typeOfRef env (afresh env) type uri (parent ++ [name]) scope) (d.Takes uri type) :=
    fun type => answers fun t ht => takes_of_denotes h (typeOfRef_afresh_eq_ok_iff.1 ht)
  unfold resolveConstruct
  cases construct with
  | container | choice | case => exact .pure ⟨rfl, fun hrefers => by cases hrefers⟩
  | list key => exact (answers fun _ _ => trivial).bind fun _ _ _ => .pure ⟨rfl, fun hrefers => by cases hrefers⟩
  | leaf type | leafList type =>
    exact (htype type).bind fun t _ ht => .pure ⟨rfl, fun _ => ⟨rfl, t, rfl, ht⟩⟩
  | typedef type =>
    dsimp only
    split
    · rename_i x hx
      refine (answers fun _ => id).bind fun t _ ht => .pure ⟨rfl, fun _ => ⟨rfl, ?_⟩⟩
      obtain ⟨inner, hinner, rfl⟩ := (afresh_eq_ok_iff (Frame.housed_of_find? hx)).1 ht
      have hname : x.name = name := by simpa using List.find?_some hx
      refine ⟨_, inner, x.type, rfl, by rw [Declaration.over, hname], rfl, takes_of_denotes h hinner, fun hd hplain => ?_⟩
      have hfind := hown hd hplain _ rfl
      rw [hx] at hfind
      cases hfind
      rfl
    · trivial
  | identity bases =>
    refine (answers fun _ => id).bind fun qs _ hqs => .pure ⟨rfl, fun _ => ⟨rfl, qs, rfl, ?_⟩⟩
    exact (ok_of_mapM hqs).imp fun _ _ => qualifies_of_resolveBase h

theorem readIn_inChoice {s : Statement} {uri : String} {choice : List String} {n : Node}
    (h : d.ReadIn uri s.referring n.all) : d.ReadIn uri s.referring (Node.allIn (s.inChoice uri choice n)) := by
  have alone : Node.allIn [n] = n.all := by simp [Node.allIn]
  cases s with
  | other keyword argument => exact .nil
  | named name description construct children =>
    cases construct with
    | case =>
      rw [Statement.inChoice, alone]
      exact h
    | container | list _ | leaf _ | leafList _ | choice | typedef _ | identity _ =>
      simp only [Statement.inChoice]
      rw [Node.allIn, Node.all_eq, Node.allIn, List.append_nil, alone]
      exact h.cons rfl

mutual

theorem reads_resolveStatement (h : d.surroundings = .ok env) (uri : String) :
    ∀ (s : Statement) (parent : List String) (scope : Scope), (d.CasesPlain → ∀ x ∈ s.all, x.casesPlain = true) →
    (d.Apart → d.CasesPlain → ∀ t, s.typedef? parent = some t → (scope.headD []).find? t.name = some t) →
    Answers (resolveStatement env (afresh env) uri parent scope s) fun n => d.ReadIn uri s.referring n.all
  | .other keyword argument, parent, scope, _, _ => by
    unfold resolveStatement
    refine .pure ?_
    rw [Node.all_eq]
    exact .nil
  | .named name description construct children, parent, scope, hplain, hown => by
    have hbelow : d.CasesPlain → ∀ x ∈ Statement.allIn children, x.casesPlain = true := fun hc x hx =>
      hplain hc x (by rw [Statement.all]; exact List.mem_cons_of_mem _ hx)
    have hkind := fun nodes => reads_resolveConstruct h uri parent scope name description construct children nodes hown
    have halone : ∀ {nodes kind}, construct.refers = false →
        Node.refers ⟨⟨⟨uri, name⟩, parent ++ [name], description⟩, kind, nodes⟩ = construct.refers →
        d.ReadIn uri (referringIn children) (Node.allIn nodes) →
        d.ReadIn uri (Statement.referring (.named name description construct children))
          (Node.all ⟨⟨⟨uri, name⟩, parent ++ [name], description⟩, kind, nodes⟩) := by
      intro nodes kind hconstruct hrefers hnodes
      rw [Statement.referring, hconstruct, Node.all_eq]
      exact hnodes.cons (hrefers.trans hconstruct)
    rw [resolveStatement_named]
    cases construct with
    | choice =>
      have hcases : d.CasesPlain → ∀ s ∈ children, s.isTypedef = false := fun hc => by
        simpa [Statement.casesPlain] using hplain hc _ (Statement.mem_all_self _)
      refine (reads_resolveCases h uri children (parent ++ [name]) scope hbelow hcases).bind fun nodes _ hnodes => ?_
      exact (hkind nodes).bind fun kind _ hkind => .pure (halone rfl hkind.1 hnodes)
    | container | list key | case =>
      simp only [resolveBelow, bind_assoc]
      refine (answers fun _ => openFrame_eq_ok_iff.1).bind fun frame _ hframe => ?_
      obtain ⟨rfl, hdistinct⟩ := hframe
      refine (reads_resolveStatements h uri children (parent ++ [name]) (_ :: scope) hbelow
        fun _ _ t ht => hdistinct.find? ht).bind fun nodes _ hnodes => ?_
      exact (hkind nodes).bind fun kind _ hkind => .pure (halone rfl hkind.1 hnodes)
    | leaf type | leafList type | typedef type | identity bases =>
      refine (hkind []).bind fun kind _ hkind => .pure ?_
      rw [Statement.referring, Node.all_eq, ReadIn, Node.allIn, List.filter_cons_of_pos hkind.1]
      exact .cons (hkind.2 rfl) .nil

theorem reads_resolveStatements (h : d.surroundings = .ok env) (uri : String) :
    ∀ (ss : List Statement) (parent : List String) (scope : Scope),
    (d.CasesPlain → ∀ x ∈ Statement.allIn ss, x.casesPlain = true) →
    (d.Apart → d.CasesPlain → ∀ t ∈ declaredIn parent ss, (scope.headD []).find? t.name = some t) →
    Answers (resolveStatements env (afresh env) uri parent scope ss) fun ns =>
      d.ReadIn uri (referringIn ss) (Node.allIn ns)
  | [], parent, scope, _, _ => by
    unfold resolveStatements
    exact .pure .nil
  | s :: ss, parent, scope, hplain, hown => by
    rw [Statement.allIn] at hplain
    rw [declaredIn_cons] at hown
    rw [resolveStatements, referringIn]
    have hs := reads_resolveStatement h uri s parent scope (fun hc x hx => hplain hc x (List.mem_append_left _ hx))
      fun hd hc t ht => hown hd hc t (List.mem_append_left _ (by simpa using ht))
    have hss := reads_resolveStatements h uri ss parent scope (fun hc x hx => hplain hc x (List.mem_append_right _ hx))
      fun hd hc t ht => hown hd hc t (List.mem_append_right _ ht)
    refine hs.bind fun n _ hn => hss.bind fun ns _ hns => .pure ?_
    rw [Node.allIn]
    exact hn.append hns

theorem reads_resolveCases (h : d.surroundings = .ok env) (uri : String) :
    ∀ (ss : List Statement) (choice : List String) (scope : Scope),
    (d.CasesPlain → ∀ x ∈ Statement.allIn ss, x.casesPlain = true) →
    (d.CasesPlain → ∀ s ∈ ss, s.isTypedef = false) →
    Answers (resolveCases env (afresh env) uri choice scope ss) fun ns => d.ReadIn uri (referringIn ss) (Node.allIn ns)
  | [], choice, scope, _, _ => by
    simp only [resolveCases]
    exact .pure .nil
  | s :: ss, choice, scope, hplain, hcases => by
    rw [Statement.allIn] at hplain
    rw [resolveCases_cons, referringIn]
    have hs := reads_resolveStatement h uri s (s.pathInChoice choice) scope
      (fun hc x hx => hplain hc x (List.mem_append_left _ hx)) fun _ hc t ht => by
        rw [Statement.typedef?_eq_none (hcases hc s List.mem_cons_self)] at ht
        cases ht
    have hss := reads_resolveCases h uri ss choice scope (fun hc x hx => hplain hc x (List.mem_append_right _ hx))
      fun hc s hs => hcases hc s (List.mem_cons_of_mem _ hs)
    refine hs.bind fun n _ hn => hss.bind fun ns _ hns => .pure ?_
    rw [Node.allIn_append]
    exact (readIn_inChoice hn).append hns

end

/-- the referring statements of a document beside the nodes that they come to be -/
theorem reads_resolve {t : Tree} (h : d.resolve = .ok t) :
    List.Forall₂ (fun (r : String × Statement) n => d.Reads r.1 r.2 n) d.referring (t.nodes.filter Node.refers) := by
  rw [Document.resolve_eq] at h
  obtain ⟨env, henv, h⟩ := ok_of_bind h
  obtain ⟨ms, hms, h⟩ := ok_of_bind h
  cases h
  have along : ∀ ms ⊆ d.modules, ∀ ms', List.Forall₂ (fun m m' => resolveModule env (afresh env) m = .ok m') ms ms' →
      List.Forall₂ (fun (r : String × Statement) n => d.Reads r.1 r.2 n)
        (ms.flatMap fun m => (referringIn m.statements).map (m.namespaceUri, ·))
        ((ms'.flatMap Module.nodes).filter Node.refers) := by
    intro ms hsub ms' hall
    induction hall with
    | nil => exact .nil
    | @cons m m' ms ms' hm _ ih =>
      obtain ⟨hmem, hsub⟩ := List.cons_subset.1 hsub
      obtain ⟨nodes, hnodes, hm⟩ := ok_of_bind hm
      cases hm
      have hread : d.ReadIn m.namespaceUri (referringIn m.statements) (Node.allIn nodes) :=
        (reads_resolveStatements henv m.namespaceUri m.statements [] [_] (fun hc => hc m hmem)
          fun hd _ t ht => by
            obtain ⟨hframe, hdistinct⟩ := frames_of_surroundings henv hd hmem
            rw [hframe]
            exact hdistinct.find? ht).answered hnodes
      rw [List.flatMap_cons, List.flatMap_cons, List.filter_append]
      refine List.rel_append (R := fun (r : String × Statement) n => d.Reads r.1 r.2 n) ?_ (ih hsub)
      exact List.forall₂_map_left_iff.2 hread
  exact along d.modules (List.Subset.refl _) ms (ok_of_mapM hms)

/-! ## The table -/

theorem nodup_of_hasDuplicate {ss : List String} (h : hasDuplicate ss = false) : ss.Nodup := by
  induction ss with
  | nil => exact List.nodup_nil
  | cons s ss ih =>
    rw [hasDuplicate, Bool.or_eq_false_iff] at h
    exact List.nodup_cons.2 ⟨by simpa using h.1, ih h.2⟩

/-- the names of the modules of a checked document are distinct, and so are their prefixes -/
theorem distinct_of_check {v : Value} (h : Document.check v = .ok d) :
    (d.modules.map (·.name)).Nodup ∧ (d.modules.map (·.modulePrefix)).Nodup := by
  obtain ⟨ms, h⟩ := Input.ok_of_object h
  obtain ⟨d', -, h⟩ := Input.Checked.ok_of_andThen h
  unfold checkDistinct at h
  split at h
  · cases h
  · rename_i hname
    obtain ⟨hlabel, rfl⟩ := Input.Checked.ok_of_refusedIf h
    exact ⟨nodup_of_hasDuplicate (by simpa using hname), nodup_of_hasDuplicate hlabel⟩

/-- a module with a label counts, unless a later one with that label has another namespace -/
theorem namespaceOf?_eq_iff {before after : List ModuleDecl} {m : ModuleDecl} (hd : d.modules = before ++ m :: after)
    {label : String} (hm : m.name = label ∨ m.modulePrefix = label)
    (hafter : ∀ x ∈ after, ∀ y ∈ after, (x.name = label ∨ x.modulePrefix = label) →
      (y.name = label ∨ y.modulePrefix = label) → x = y) :
    d.namespaceOf? label = some m.namespaceUri ↔
      ∀ x ∈ after, x.name = label ∨ x.modulePrefix = label → x.namespaceUri = m.namespaceUri := by
  have hthis : (m.name == label || m.modulePrefix == label) = true := by simpa using hm
  unfold namespaceOf?
  rw [hd, List.reverse_append, List.reverse_cons, List.append_assoc, List.find?_append]
  cases hlast : after.reverse.find? fun x => x.name == label || x.modulePrefix == label with
  | none =>
    have hnone : ∀ x ∈ after, ¬ (x.name = label ∨ x.modulePrefix = label) := by simpa using hlast
    rw [Option.none_or, List.singleton_append, List.find?_cons, hthis]
    exact iff_of_true rfl fun x hx hlabel => absurd hlabel (hnone x hx)
  | some y =>
    have hy : y ∈ after := List.mem_reverse.1 (List.mem_of_find?_eq_some hlast)
    have hlabel : y.name = label ∨ y.modulePrefix = label := by simpa using List.find?_some hlast
    rw [Option.some_or, Option.map_some, Option.some.injEq]
    exact ⟨fun heq x hx hx' => hafter x hx y hy hx' hlabel ▸ heq, fun hall => hall y hy hlabel⟩

/-- **References are read by one table of prefixes and names.** In a checked document that resolves, what each leaf,
leaf-list, typedef and identity refers to is in the namespace of the last module that has the prefix of the reference as its
name or as its prefix. A module is that one for its own prefix exactly if no later module of another namespace is named like
it, and for its own name exactly if no later module of another namespace has it as its prefix. -/
theorem resolve_prefixes {v : Value} (hcheck : Document.check v = .ok d) {t : Tree} (h : d.resolve = .ok t) :
    List.Forall₂ (fun (r : String × Statement) n => d.Reads r.1 r.2 n) d.referring (t.nodes.filter Node.refers) ∧
    ∀ before m after, d.modules = before ++ m :: after →
      (d.namespaceOf? m.modulePrefix = some m.namespaceUri ↔
        ∀ x ∈ after, x.name = m.modulePrefix → x.namespaceUri = m.namespaceUri) ∧
      (d.namespaceOf? m.name = some m.namespaceUri ↔
        ∀ x ∈ after, x.modulePrefix = m.name → x.namespaceUri = m.namespaceUri) := by
  obtain ⟨hnames, hlabels⟩ := distinct_of_check hcheck
  refine ⟨reads_resolve h, fun before m after hsplit => ?_⟩
  rw [hsplit, List.map_append, List.map_cons] at hnames hlabels
  obtain ⟨hname, hnames⟩ := List.nodup_cons.1 (List.nodup_append.1 hnames).2.1
  obtain ⟨hlabel, hlabels⟩ := List.nodup_cons.1 (List.nodup_append.1 hlabels).2.1
  have hnot : ∀ x ∈ after, x.name ≠ m.name := fun x hx heq => hname (heq ▸ List.mem_map_of_mem hx)
  have hnot' : ∀ x ∈ after, x.modulePrefix ≠ m.modulePrefix := fun x hx heq => hlabel (heq ▸ List.mem_map_of_mem hx)
  constructor
  · rw [namespaceOf?_eq_iff hsplit (.inr rfl) fun x hx y hy hx' hy' => List.inj_on_of_nodup_map hnames hx hy
      ((hx'.resolve_right (hnot' x hx)).trans (hy'.resolve_right (hnot' y hy)).symm)]
    exact forall₂_congr fun x hx => ⟨fun hall hlabel => hall (.inl hlabel),
      fun hall hlabel => hall (hlabel.resolve_right (hnot' x hx))⟩
  · rw [namespaceOf?_eq_iff hsplit (.inl rfl) fun x hx y hy hx' hy' => List.inj_on_of_nodup_map hlabels hx hy
      ((hx'.resolve_left (hnot x hx)).trans (hy'.resolve_left (hnot y hy)).symm)]
    exact forall₂_congr fun x hx => ⟨fun hall hlabel => hall (.inr hlabel),
      fun hall hlabel => hall (hlabel.resolve_left (hnot x hx))⟩

/-- a module that refers to its typedef by its own prefix, before a module of that name -/
def capturedSchema : Value :=
  let named := fun (kind name type : String) =>
    Value.map [(.text "kind", .text kind), (.text "name", .text name), (.text "type", .text type)]
  let module := fun (name uri label : String) (statements : List Value) =>
    Value.map [(.text "name", .text name), (.text "namespace", .text uri), (.text "prefix", .text label),
      (.text "statements", .list statements)]
  .map [(.text "modules", .list [
    module "a" "urn:a" "b" [named "typedef" "t" "uint8", named "leaf" "x" "b:t"],
    module "b" "urn:b" "c" [named "typedef" "t" "string"]])]

/-- its document -/
def captured : Document :=
  ⟨[⟨"a", "urn:a", "b", none, [
      .named "t" none (.typedef (.mk "uint8" none none)) [],
      .named "x" none (.leaf (.mk "b:t" none none)) []]⟩,
    ⟨"b", "urn:b", "c", none, [.named "t" none (.typedef (.mk "string" none none)) []]⟩]⟩

/-- the leaf has the typedef of the later module, and its own module is not what its prefix stands for -/
theorem captured_elsewhere : Document.check capturedSchema = .ok captured ∧ ∃ t, captured.resolve = .ok t ∧
    List.Forall₂ (fun (r : String × Statement) n => captured.Reads r.1 r.2 n) captured.referring
      (t.nodes.filter Node.refers) ∧
    captured.namespaceOf? "b" = some "urn:b" ∧ captured.namespaceOf? "b" ≠ some "urn:a" ∧
    t.nodes.map (fun n => n.kind.type?.map (·.name)) =
      [some ⟨"urn:a", "t"⟩, some ⟨"urn:b", "t"⟩, some ⟨"urn:b", "t"⟩] := by
  have hcheck : Document.check capturedSchema = .ok captured := rfl
  have hnames : captured.resolve.map (·.nodes.map fun n => n.kind.type?.map (·.name)) =
      .ok [some ⟨"urn:a", "t"⟩, some ⟨"urn:b", "t"⟩, some ⟨"urn:b", "t"⟩] := rfl
  cases h : captured.resolve with
  | error e =>
    rw [h] at hnames
    cases hnames
  | ok t =>
    rw [h] at hnames
    obtain ⟨hreads, hmodules⟩ := resolve_prefixes hcheck h
    have hnot := (hmodules [] _ _ rfl).1.not.2 fun hall => absurd (hall _ List.mem_cons_self rfl) (by decide)
    exact ⟨hcheck, t, rfl, hreads, rfl, hnot, Except.ok.inj hnames⟩

end Document

end YangDesign.Schema
