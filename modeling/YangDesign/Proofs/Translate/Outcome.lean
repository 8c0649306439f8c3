/-
The outcome of a translation without data, told from its tree.

`Tree.Barred` lists what bars a translation: a node with no translation where it stands, an identity with several bases, two
owners that ask for one name. `Tree.Calls` lists the definitions that a tree calls for. In an orderly tree, where nodes,
identities and types are told apart by their places, a translation answers exactly if nothing bars it (`translate_isOk_iff`), and the
definitions of the design are those that the tree calls for (`Settled.mem_definitions_iff`). Neither list has an order.
-/
import YangDesign.Proofs.Translate.Asking
import YangDesign.Proofs.Translate.Correspondence
import YangDesign.Proofs.Translate.Derivation
import YangDesign.Proofs.Translate.Faithful
import YangDesign.Proofs.Translate.Refusals

namespace YangDesign.Schema

open Translate

/-- what bars a translation without data, whatever the order of the statements -/
inductive Tree.Barred (t : Tree) (uri : String) : Prop where
  | statement {m : Module} {n : Node} : m ∈ t.modules → n ∈ m.statements → n.kind.isForeignAtTop = true → Barred t uri
  | child : t.HasStranger → Barred t uri
  | bases {i : Identity} : i ∈ t.topIdentities → 1 < i.bases.length → Barred t uri
  | names {o o' : Owner} {r r' : TypeRole} : t.Ambiguous uri o o' r r' → Barred t uri

/-- the definitions that a tree calls for, where a namer has the names: those of its sources, and the types of its nodes -/
inductive Tree.Calls (t : Tree) (nm : Namer) : Design.Definition → Prop where
  | source {u : Source} : t.Makes u → Calls t nm (sourceFor nm t u)
  | type {n : Node} {r : TypeRole} {d : Design.Definition} : n ∈ t.nodes → (r, d) ∈ typesFor nm n → Calls t nm d

/-- no two types of a schema have a path in common -/
def Tree.TypesApart (t : Tree) : Prop :=
  ∀ u ∈ t.types, ∀ v ∈ t.types, u.name.namespaceUri = v.name.namespaceUri → u.path = v.path → u = v

/-- no two identities at the top of a module have a name in common -/
def Tree.IdentitiesApart (t : Tree) : Prop :=
  ∀ m ∈ t.modules, (identityNames m.statements).Nodup

/-- a tree of one namespace in which nodes, identities and types have places of their own -/
structure Tree.Orderly (t : Tree) (uri : String) : Prop where
  resolved : t.Resolved
  home : t.Home uri
  distinct : t.Distinct
  identities : t.IdentitiesApart
  types : t.TypesApart

/-- an identity at the top of a module is told from all others by its namespace and its path -/
theorem Tree.Resolved.identity_unique {t : Tree} (hr : t.Resolved) (hnamespaces : (t.modules.map (·.namespaceUri)).Nodup)
    (hapart : t.IdentitiesApart) {i j : Identity} (hi : i ∈ t.topIdentities) (hj : j ∈ t.topIdentities)
    (ho : ownerOf i.head = ownerOf j.head) : i = j := by
  obtain ⟨m, hm, n, hn, hk, hhead⟩ := Tree.mem_topIdentities.1 hi
  obtain ⟨m', hm', n', hn', hk', hhead'⟩ := Tree.mem_topIdentities.1 hj
  obtain ⟨huri, hpath⟩ := hr.top m hm n hn
  obtain ⟨huri', hpath'⟩ := hr.top m' hm' n' hn'
  rw [← hhead, ← hhead', ownerOf, ownerOf, Owner.mk.injEq] at ho
  have hmodules : m.namespaceUri = m'.namespaceUri := by rw [← huri, ← huri', ho.1]
  obtain rfl : m = m' := List.inj_on_of_nodup_map hnamespaces hm hm' hmodules
  rw [hpath, hpath', List.nil_append, List.nil_append, List.singleton_inj] at ho
  have hidentity : ∀ {x : Node} {bases : List QName}, x ∈ m.statements → x.kind = .identity bases →
      x ∈ m.statements.filter (·.kind.isIdentity) :=
    fun hx hkx => List.mem_filter.2 ⟨hx, by rw [hkx]; rfl⟩
  obtain rfl : n = n' := List.inj_on_of_nodup_map (hapart m hm) (hidentity hn hk) (hidentity hn' hk') ho.2
  have hbases : i.bases = j.bases := NodeKind.identity.inj (hk.symm.trans hk')
  obtain ⟨head, bases⟩ := i
  obtain ⟨head', bases'⟩ := j
  cases hhead.symm.trans hhead'
  cases hbases
  rfl

theorem Tree.Orderly.identity_unique {t : Tree} {uri : String} (h : t.Orderly uri) {i j : Identity}
    (hi : i ∈ t.topIdentities) (hj : j ∈ t.topIdentities) (ho : ownerOf i.head = ownerOf j.head) : i = j :=
  h.resolved.identity_unique h.distinct.namespaces h.identities hi hj ho

end YangDesign.Schema

namespace YangDesign.Translate

open Design Instance Schema Progress

variable {α : Type} {tree tree' : Tree} {uri : String} {p q : Progress}

/-! ## Runs -/

/-- what holds already holds after a part of a translation that asks for names of the tree only -/
theorem Modest.tames {x : Translator α} (hx : Modest tree uri x) {P : Prop} (hp : P) (h : Tame tree uri p) :
    Tames tree uri p x fun _ _ => P :=
  (hx p h).imp fun _ _ _ _ => hp

/-- one statement at the top of a module -/
theorem Tame.tames_translateStatement (hr : tree.Resolved) (hhome : tree.Home uri) (h : Tame tree uri p) {m : Module}
    {n : Node} (hm : m ∈ tree.modules) (hn : n ∈ m.statements) (name : String) :
    Tames tree uri p (translateStatement tree name [] n) fun _ _ => n.kind.isForeignAtTop = false := by
  have hnode := Tree.statement_mem_nodes hm hn
  have hmembers : ∀ {k : NodeKind}, n.kind = k → k ≠ .choice → Modest tree uri (typeMembers n.children) :=
    fun hk hne => modest_membersOf hr hhome n.children hnode (by rw [hk]; exact hne) fun _ hc => hc
  unfold translateStatement
  split
  case h_1 keyword _ hk =>
    split
    · rename_i hignored
      refine (modest_note _).tames ?_ h
      rw [hk]
      simpa [NodeKind.isForeignAtTop] using hignored
    · exact tames_unsupported trivial
  case h_2 bases hk =>
    have hi : (⟨n.head, bases⟩ : Identity) ∈ tree.topIdentities := Tree.mem_topIdentities.2 ⟨m, hm, n, hn, hk, rfl⟩
    refine Tames.bind (tames_translateIdentityWithin hhome _ h hi) fun _ _ ht _ _ => ht.tames_pure ?_
    rw [hk]
    rfl
  case h_3 hk =>
    have hname := modest_nameFor hhome (.type hnode (r := .container) (by rw [hk]; exact List.mem_cons_self))
    have htype : Modest tree uri (containerType n) := modest_containerTypeOf hhome hnode hk (hmembers hk (by simp))
    refine Modest.tames ?_ (by rw [hk]; rfl) h
    unfold translateContainer
    refine hname.bind fun s => Modest.bind (fun q hq => ?_) fun known => htype.bind fun _ => modest_pure ()
    exact (hq.tames_isRegistered .objectType s).imp fun _ _ _ _ => trivial
  case h_4 type hk =>
    refine Tames.bind (h.tames_translateTypedef hr hhome hnode hk) fun _ _ ht _ _ => ht.tames_pure ?_
    rw [hk]
    rfl
  case h_5 type hk =>
    cases type with
    | none => exact absurd hk (hr.nodes n hnode).typed.1
    | some t =>
      have htype := modest_variableType hr hhome hnode (r := .leaf) .scalar (Or.inl ⟨hk, rfl⟩)
      exact Modest.tames (htype.bind fun _ => modest_skipData _ _ _) (by rw [hk]; rfl) h
  case h_6 type hk =>
    cases type with
    | none => exact absurd hk (hr.nodes n hnode).typed.2.1
    | some t =>
      have htype := modest_variableType hr hhome hnode (r := .leafList) .array (Or.inr ⟨hk, rfl⟩)
      exact Modest.tames (htype.bind fun _ => modest_skipData _ _ _) (by rw [hk]; rfl) h
  case h_7 keys hk =>
    have htypes : Modest tree uri (listTypes n) := modest_listTypesOf hhome hnode hk (hmembers hk (by simp))
    exact Modest.tames (htypes.bind fun _ => modest_skipData _ _ _) (by rw [hk]; rfl) h
  case h_8 hk =>
    have hcases := modest_caseTypesOf hr hhome n.children fun c hc =>
      ⟨Tree.child_mem_nodes hnode hc, (hr.nodes n hnode).cases hk c hc⟩
    have htype : Modest tree uri (choiceType n) := modest_choiceTypeOf hhome hnode hk hcases
    exact Modest.tames (htype.bind fun _ => modest_pure ()) (by rw [hk]; rfl) h
  case h_9 hk => exact tames_unsupported trivial

/-- parts in order, each of which tells something for good -/
theorem Tame.tames_forM {f : α → Translator Unit} {P : α → Prop} {as : List α}
    (hf : ∀ a ∈ as, ∀ q, Tame tree uri q → Tames tree uri q (f a) fun _ _ => P a) (h : Tame tree uri p) :
    Tames tree uri p (as.forM f) fun _ _ => ∀ a ∈ as, P a := by
  induction as generalizing p with
  | nil => exact holds_forM_nil ⟨h, Namer.Grows.refl _, fun a ha => by cases ha⟩
  | cons a as ih =>
    obtain ⟨hhead, htail⟩ := List.forall_mem_cons.1 hf
    refine holds_forM_cons (Holds.imp (hhead p h) fun _ t ht => ?_)
    obtain ⟨ht, g, ha⟩ := ht
    refine Holds.imp (ih htail ht) fun _ u hu => ?_
    exact ⟨hu.1, g.trans hu.2.1, List.forall_mem_cons.2 ⟨ha, hu.2.2⟩⟩

theorem tames_run (hr : tree.Resolved) (hhome : tree.Home uri) (s : Settings) :
    Tames tree uri (.start (.new s.target (designNamespaces s))) (translateTree tree [])
      fun _ _ => ∀ m ∈ tree.modules, ∀ n ∈ m.statements, n.kind.isForeignAtTop = false := by
  unfold translateTree
  refine Tames.bind (Tame.tames_forM (P := fun m => ∀ n ∈ m.statements, n.kind.isForeignAtTop = false)
    (fun m hm q hq => ?_) (tame_start _ _)) fun _ t ht _ hforeign => ?_
  · unfold translateModule
    refine Tames.bind (hq.tames_note _) fun _ u hu _ _ => ?_
    exact hu.tames_forM fun n hn v hv => hv.tames_translateStatement hr hhome hm hn m.name
  · exact Holds.bind (holds_get ((ht.tames_note _).imp fun _ _ _ _ => hforeign))

/-! ## Settled translations -/

/-- the sources of an orderly tree do not share their owners -/
theorem apart_of_orderly (h : tree.Orderly uri) : Apart tree := by
  rintro (t | i) (u | j) ht hu hrole ho
  · have howner : ownerOfType t = ownerOfType u := ho
    rw [ownerOfType, ownerOfType, Owner.mk.injEq] at howner
    rw [h.types t (ht.type_mem t rfl) u (hu.type_mem u rfl) howner.1 howner.2]
  · cases hrole
  · cases hrole
  · rw [h.identity_unique ht.identity_mem hu.identity_mem ho]

/-- a translation without data of an orderly tree that answered -/
structure Settled (tree : Tree) (uri : String) (p : Progress) : Prop where
  orderly : tree.Orderly uri
  traced : Traced tree p
  tame : Tame tree uri p
  native : ∀ m ∈ tree.modules, ∀ n ∈ m.statements, n.kind.isForeignAtTop = false
  plain : ∀ d ∈ p.document.definitions, d.kind ≠ .object

theorem Stock.foldl_top_nil (nm : Namer) (k : Stock) (ns : List Node) : ns.foldl (Stock.top nm []) k = k := by
  induction ns with
  | nil => rfl
  | cons n ns ih =>
    have htop : Stock.top nm [] k n = k := by
      unfold Stock.top
      rw [show findChild? DataNode.containerChildren? n.head.name [] = none from rfl]
      split
      · rename_i hnone
        cases hnone
      · rfl
    rw [List.foldl_cons, htop, ih]

/-- a translation without data does not look at the settings for data -/
theorem run_nil (s : Settings) (tree : Tree) :
    run s tree [] = (translateTree tree []).run (.start (.new s.target (designNamespaces s))) := by
  unfold run
  rw [show (if s.materialize then ([] : List DataNode) else []) = [] by split <;> rfl]

theorem settled_of_run (h : tree.Orderly uri) {s : Settings} (hrun : run s tree [] = (.ok (), p)) :
    Settled tree uri p := by
  obtain ⟨htame, -, hnative⟩ := Holds.ok (tames_run h.resolved h.home s) ((run_nil s tree).symm.trans hrun)
  refine ⟨h, traced_of_run h.resolved h.distinct hrun, htame, hnative, fun d hd hk => ?_⟩
  have hstock := (run_traced h.resolved h.distinct hrun).2
  rw [show (if s.materialize then ([] : List DataNode) else []) = [] by split <;> rfl, Stock.foldl_top_nil] at hstock
  have hempty : p.document.ofKind .object = [] := congrArg Stock.objects hstock
  have hmem : d ∈ p.document.ofKind .object :=
    List.mem_filter.2 ⟨Array.mem_toList_iff.2 hd, by rw [hk]; rfl⟩
  rw [hempty] at hmem
  cases hmem

namespace Settled

variable (h : Settled tree uri p)

include h

/-- a registered name of a source is recorded with its definition -/
theorem written {u : Source} (hu : tree.Makes u) {n : SymbolicName} (ha : p.Asked u.role u.owner n) :
    u.Single ∧ ∃ d, p.document.get? n = some d ∧ ∀ nm, p.namer.Grows nm → d = sourceFor nm tree u := by
  obtain ⟨e, he⟩ := Option.isSome_iff_exists.1 ha.registered
  obtain ⟨v, hv⟩ := h.tame.sources _ _ _ he (by cases u <;> simp [Source.role, TypeRole.family])
  have hnamed : p.Named (sourceJob v) n := hv.named
  have hjob : sourceJob v = sourceJob u := hnamed.job_unique ha.named
  rw [sourceJob, sourceJob, typeJob, typeJob, Job.mk.injEq, Purpose.type.injEq] at hjob
  obtain rfl := (apart_of_orderly h.orderly) v u hv.makes hu hjob.1 hjob.2
  obtain ⟨r, o, -, -, hm⟩ := h.traced.sound.requested _ _ _ he
  cases e with
  | none => cases hm
  | some d => exact ⟨hv.single, d, hm.1, hv.written d rfl⟩

/-- every source of the tree has a registered name -/
theorem asked_of_makes {u : Source} (hu : tree.Makes u) : ∃ n, p.Asked u.role u.owner n := by
  induction hu with
  | @type x t hx ht hderived =>
    have htyped : ∃ n, TypedAs p t n := by
      have hcovered := h.traced.covered x hx
      obtain ⟨head, kind, children⟩ := x
      have hvariable : ∀ {r : TypeRole}, variableOf? kind = some (r, t) → ∃ n, TypedAs p t n := by
        intro r hk
        obtain ⟨-, -, -, n, -, -, -, -, hn⟩ := h.traced.sound.variable_of_covered h.orderly.resolved h.orderly.distinct hx
          hcovered hk
        exact ⟨n, hn⟩
      cases kind with
      | leaf type =>
        obtain rfl : type = some t := ht
        exact hvariable rfl
      | leafList type =>
        obtain rfl : type = some t := ht
        exact hvariable rfl
      | typedef type => exact hcovered t ht
      | container | list | choice | case | identity | other => cases ht
    obtain ⟨n, hn⟩ := htyped
    rw [TypedAs, if_neg (by rw [hderived]; decide)] at hn
    exact ⟨n, hn⟩
  | identity hi => exact h.traced.identities _ hi
  | base hs hunder ih =>
    obtain ⟨n, hn⟩ := ih
    cases hunder with
    | @type t b hb =>
      obtain ⟨w, hw, ho⟩ := h.traced.sound.madeFrom hn
      have hsame : Source.type w = .type t := (apart_of_orderly h.orderly) _ _ hw.makes hs rfl ho
      cases hsame
      obtain ⟨-, m, -, -, hbase⟩ := hw.found
      exact ⟨m, hbase.asked hb⟩
    | @identity i j hj =>
      obtain ⟨m, hm, -⟩ := h.traced.sound.base_of_identity (apart_of_orderly h.orderly) hs.identity_mem hj hn
      exact ⟨m, hm⟩

/-- the names that the tree asks for were given out -/
theorem gave_of_asks {o : Owner} {r : TypeRole} (ha : tree.Asks o r) : ∃ n, p.namer.Gave o r.text n := by
  cases ha with
  | type hn hr => exact ⟨_, (h.traced.asked hn hr).named⟩
  | source hu =>
    obtain ⟨n, hn⟩ := h.asked_of_makes hu
    exact ⟨n, hn.named⟩
  | @member n c hn hc hk =>
    have hchoice : n.kind ≠ .choice := by
      intro hchoice
      rw [(h.orderly.resolved.nodes n hn).cases hchoice c hc] at hk
      cases hk
    exact (h.traced.rendered hn hchoice hc).named hk

/-- the namespace of a tree that asks for names is the only one that got a number -/
theorem namespaces_eq {o : Owner} {r : TypeRole} (ha : tree.Asks o r) : p.namer.namespaces = [uri] := by
  obtain ⟨n, hn⟩ := h.gave_of_asks ha
  rcases h.tame.seen with hnone | ⟨hone, -⟩
  · have hseen := hn.seen
    rw [hnone] at hseen
    cases hseen
  · exact hone

/-- nothing bars a translation that answered -/
theorem not_barred : ¬ tree.Barred uri := by
  rintro (⟨hm, hn, hk⟩ | ⟨n, hn, hne, c, hc, hk⟩ | ⟨hi, hlen⟩ | @⟨o, o', r, r', hclash⟩)
  · rw [h.native _ hm _ hn] at hk
    cases hk
  · rw [(h.traced.rendered hn hne hc).native] at hk
    cases hk
  · obtain ⟨n, hn⟩ := h.asked_of_makes (.identity hi)
    have hsingle := (h.written (.identity hi) hn).1
    exact absurd hlen (Nat.not_lt.2 hsingle)
  · obtain ⟨n, hn⟩ := h.gave_of_asks hclash.asks
    obtain ⟨n', hn'⟩ := h.gave_of_asks hclash.asks'
    have hspelled := hclash.alike p.namer (h.namespaces_eq hclash.asks)
    have hname : n' = n := by
      rw [hn'.spelled, hn.spelled, Namer.symbol, Namer.symbol, hspelled]
    rw [hname] at hn'
    exact hclash.ne (hn'.owner_unique hn)

/-- every definition is recorded for a type -/
theorem recorded_of_mem {d : Definition} (hd : d ∈ p.document.definitions) :
    ∃ r : TypeRole, p.registry.entries.find? (r.family, d.name) = some (some d) := by
  have hget := h.traced.sound.indexed.get?_of_mem hd
  obtain ⟨r, o, hnamed⟩ := h.traced.recorded.emitted d hd (h.plain d hd)
  obtain ⟨x, hx, hbegun⟩ := h.traced.sound.known d.name (ModelDocument.Indexed.contains_of_get? hget)
  have htype : p.Named (typeJob r o) d.name := hnamed
  rw [hx.job_unique htype] at hbegun
  obtain ⟨s, ha⟩ : ∃ s, p.Asked r o s := hbegun
  obtain rfl := ha.named.name_unique htype
  obtain ⟨e, he⟩ := Option.isSome_iff_exists.1 ha.registered
  obtain ⟨r', o', -, -, hm⟩ := h.traced.sound.requested _ _ _ he
  cases e with
  | none => cases hm
  | some d' =>
    cases hget.symm.trans hm.1
    exact ⟨r, he⟩

/-- **The definitions of a design are those that its tree calls for.** -/
theorem mem_definitions_iff {nm : Namer} (hnm : p.namer.Grows nm) {d : Definition} :
    d ∈ p.document.definitions ↔ tree.Calls nm d := by
  constructor
  · intro hd
    obtain ⟨r, he⟩ := h.recorded_of_mem hd
    by_cases hsource : r.family = .dataType ∨ r.family = .identity
    · obtain ⟨u, hu⟩ := h.tame.sources _ _ _ he hsource
      rw [hu.written d rfl nm hnm]
      exact .source hu.makes
    · obtain ⟨hdata, hidentity⟩ := not_or.1 hsource
      rcases h.traced.recorded.registered _ _ _ he with hf | hf | ⟨x, hx, q, -, -, -, hdrawn⟩
      · exact absurd hf hdata
      · exact absurd hf hidentity
      · exact .type hx ((hdrawn d rfl).drawn nm hnm)
  · rintro (hu | ⟨hn, hd⟩)
    · obtain ⟨n, hn⟩ := h.asked_of_makes hu
      obtain ⟨-, d, hget, hd⟩ := h.written hu hn
      rw [← hd nm hnm]
      exact (h.traced.sound.indexed.mem_of_get? hget).1
    · rename_i x r
      obtain ⟨hr, hi⟩ := role_of_mem_typesFor hd
      obtain ⟨-, d', hget, hdrawn⟩ := h.traced.typed hn hr hi
      obtain rfl := eq_of_mem_typesFor hd (hdrawn.drawn nm hnm)
      exact (h.traced.sound.indexed.mem_of_get? hget).1

end Settled

/-! ## Outcomes -/

/-- what a translation without data fails over bars it -/
theorem barred_of_run (h : tree.Orderly uri) {s : Settings}
    (hsymbols : ∀ o, tree.Owns o → ∀ (n : Namer) (q : Purpose), Text.isSymbol (n.spelling o q.text) = true) {e : Failure}
    (hrun : run s tree [] = (.error e, p)) : tree.Barred uri := by
  have hgrounds : Grounds tree uri e :=
    Holds.error (tames_run h.resolved h.home s) ((run_nil s tree).symm.trans hrun)
  cases run_refusal h.resolved hrun with
  | statement hm hn hk => exact .statement hm hn hk
  | child => exact .child hgrounds
  | multipleBases hi hlen => exact .bases hi hlen
  | clash =>
    obtain ⟨o, o', r, r', hclash⟩ := hgrounds
    exact .names hclash
  | notSymbol ho hs =>
    rw [hsymbols _ ho] at hs
    cases hs

/-- **A translation without data answers exactly if nothing bars it.** -/
theorem translate_isOk_iff (h : tree.Orderly uri) (s : Settings)
    (hsymbols : ∀ o, tree.Owns o → ∀ (n : Namer) (q : Purpose), Text.isSymbol (n.spelling o q.text) = true) :
    (∃ doc, translate s tree [] = .ok doc) ↔ ¬ tree.Barred uri := by
  constructor
  · rintro ⟨doc, hdoc⟩
    obtain ⟨p, hrun, -⟩ := translate_eq_ok_iff.1 hdoc
    exact (settled_of_run h hrun).not_barred
  · intro hbarred
    cases hresult : translate s tree [] with
    | ok doc => exact ⟨doc, rfl⟩
    | error e =>
      obtain ⟨p, hrun⟩ := translate_eq_error_iff.1 hresult
      exact absurd (barred_of_run h hsymbols hrun) hbarred

end YangDesign.Translate
