/-
Data adds objects to a design, and nothing else.

Two translations of a schema run side by side: one with data in the state `p`, one without in the state `q`, and
`AddsObjects q p`. Types are made alike by both (`Copied`), since what they ask for does not depend on objects. Objects are made
by the first alone; by then the types for them are registered, so the types stay alike (`rests_membersOf`).
`translate_without_data` is the result for whole translations.
-/
import YangDesign.Proofs.Translate.Composition
import YangDesign.Proofs.Translate.Correspondence
import YangDesign.Proofs.Translate.Resting

namespace YangDesign.Translate

open Design Instance Schema Progress

variable {α β : Type} {tree : Tree} {p q : Progress}

/-! ## Side by side -/

/-- an answer of `x` at `p` is one of `y` at `q`, and of the states reached the first has more objects -/
def Beside (p q : Progress) (x y : Translator α) : Prop :=
  ∀ a p', (x.run p : Except Failure α × Progress) = (.ok a, p') →
    ∃ q', (y.run q : Except Failure α × Progress) = (.ok a, q') ∧ AddsObjects q' p'

/-- a part of a translation that goes alike without the objects -/
def Copied (x : Translator α) : Prop :=
  ∀ p q, AddsObjects q p → Beside p q x x

theorem Beside.bind {x y : Translator α} {f g : α → Translator β} (h : Beside p q x y)
    (k : ∀ a p' q', (x.run p : Except Failure α × Progress) = (.ok a, p') → AddsObjects q' p' → Beside p' q' (f a) (g a)) :
    Beside p q (x >>= f) (y >>= g) := by
  intro b p'' hrun
  obtain ⟨a, p', hx, hf⟩ := ok_of_run_bind hrun
  obtain ⟨q', hy, hadds⟩ := h a p' hx
  obtain ⟨q'', hg, hadds'⟩ := k a p' q' hx hadds b p'' hf
  refine ⟨q'', ?_, hadds'⟩
  rw [run_bind, hy]
  exact hg

theorem beside_get {f g : Progress → Translator α} (h : Beside p q (f p) (g q)) : Beside p q (get >>= f) (get >>= g) := h

theorem beside_modify {f g : Progress → Progress} (h : AddsObjects (g q) (f p)) : Beside p q (modify f) (modify g) := by
  intro a p' hrun
  cases hrun
  exact ⟨_, rfl, h⟩

/-- what does not answer -/
theorem beside_of_refused {x y : Translator α} (h : Holds x p (fun _ _ => False) fun _ => True) : Beside p q x y :=
  fun _ _ hrun => (Holds.ok h hrun).elim

/-- what rests in the first translation and is not there in the second -/
theorem beside_of_rests {x : Translator Unit} (h : Rests p x) (hadds : AddsObjects q p) : Beside p q x (pure ()) :=
  fun () _ hrun => ⟨q, rfl, hadds.trans (Holds.ok h hrun).1⟩

theorem beside_forM {I : Progress → Prop} {f g : α → Translator Unit} {as : List α}
    (keeps : ∀ a ∈ as, ∀ p p', I p → ((f a).run p : Except Failure Unit × Progress) = (.ok (), p') → I p')
    (step : ∀ a ∈ as, ∀ p q, I p → AddsObjects q p → Beside p q (f a) (g a)) :
    ∀ p q, I p → AddsObjects q p → Beside p q (as.forM f) (as.forM g) := by
  induction as with
  | nil =>
    intro p q _ hadds a p' hrun
    cases hrun
    exact ⟨q, rfl, hadds⟩
  | cons a as ih =>
    intro p q hI hadds
    refine Beside.bind (step a List.mem_cons_self p q hI hadds) fun _ p' q' hrun hadds' => ?_
    exact ih (fun b hb => keeps b (List.mem_cons_of_mem _ hb)) (fun b hb => step b (List.mem_cons_of_mem _ hb)) p' q'
      (keeps a List.mem_cons_self p p' hI hrun) hadds'

/-! ## Rules -/

theorem Copied.bind {x : Translator α} {f : α → Translator β} (h : Copied x) (k : ∀ a, Copied (f a)) : Copied (x >>= f) :=
  fun p q hadds => Beside.bind (h p q hadds) fun a p' q' _ hadds' => k a p' q' hadds'

theorem Beside.answer {x y : Translator α} (h : Beside p q x y) {a : α} {p' : Progress}
    (hrun : (x.run p : Except Failure α × Progress) = (.ok a, p')) :
    ∃ q', (y.run q : Except Failure α × Progress) = (.ok a, q') ∧ AddsObjects q' p' :=
  h a p' hrun

theorem Copied.beside {x : Translator α} (h : Copied x) (hadds : AddsObjects q p) : Beside p q x x :=
  h p q hadds

theorem copied_pure (a : α) : Copied (pure a : Translator α) := by
  intro p q hadds b p' hrun
  cases hrun
  exact ⟨q, rfl, hadds⟩

theorem copied_fail (e : Failure) : Copied (throw e : Translator α) :=
  fun _ _ _ => beside_of_refused (holds_throw trivial)

theorem copied_note (e : Event) : Copied (note e) :=
  fun _ _ h => beside_modify ⟨h.namer, h.namespaces, h.registry, h.types, h.names⟩

theorem copied_isRegistered (f : Family) (n : SymbolicName) : Copied (isRegistered f n) := by
  intro p q hadds
  unfold isRegistered
  refine beside_get ?_
  rw [hadds.registry]
  exact copied_pure _ p q hadds

/-- the names of nodes do not depend on those given out for objects -/
theorem copied_nameFor (o : Owner) (role : String) : Copied (nameFor o role) := by
  intro p q hadds
  unfold nameFor
  refine beside_get ?_
  rcases hn : p.namer.nameFor o role with ⟨fault | s, n⟩
  · refine beside_of_refused (Holds.bind (holds_modify ?_))
    cases fault <;> exact holds_throw trivial
  · obtain ⟨m, hm, hgrows, hseen⟩ := Namer.nameFor_of_grows hadds.namer hadds.namespaces hn
    rw [hm]
    refine Beside.bind (beside_modify ?_) fun _ p' q' _ h' => copied_pure s p' q' h'
    exact ⟨hgrows, hseen, hadds.registry, hadds.types, hadds.names⟩

/-- a type is new without the objects if it is new with them -/
theorem copied_register (f : Family) (n : SymbolicName) {build : Translator Definition} (h : Copied build) :
    Copied (register f n build) := by
  intro p q hadds
  have hregistry : ∀ {p q : Progress}, AddsObjects q p → ∀ r, AddsObjects { q with registry := r } { p with registry := r } :=
    fun h _ => ⟨h.namer, h.namespaces, rfl, h.types, h.names⟩
  unfold register obtain
  -- the registries are the same, so the name is known to both or to neither
  refine beside_get ?_
  show Beside p q (if p.registry.isRegistered f n then _ else _) (if q.registry.isRegistered f n then _ else _)
  rw [hadds.registry]
  split
  · exact copied_pure n p q hadds
  · refine Beside.bind (beside_modify ?_) fun _ p1 q1 _ h1 => ?_
    · show AddsObjects { q with registry := q.registry.reserve f n } { p with registry := p.registry.reserve f n }
      rw [hadds.registry]
      exact hregistry hadds _
    refine Beside.bind ((copied_note _).bind (fun _ => h) p1 q1 h1) fun d p2 q2 _ h2 => ?_
    refine Beside.bind (beside_modify ?_) fun _ p3 q3 _ h3 => copied_pure n p3 q3 h3
    show AddsObjects { q2 with registry := q2.registry.record f n d } { p2 with registry := p2.registry.record f n d }
    rw [h2.registry]
    exact hregistry h2 _

/-- a name is free without the objects if it is free with them -/
theorem copied_emit (d : Definition) : Copied (emit d) := by
  intro p q hadds
  unfold emit
  refine beside_get ?_
  cases hp : p.document.append d with
  | none => exact beside_of_refused (holds_throw trivial)
  | some doc =>
    have hfree : q.document.contains d.name = false := by
      by_contra hc
      have := hadds.names d.name (by simpa using hc)
      rw [(ModelDocument.append_eq_some_iff.1 hp).1] at this
      cases this
    obtain ⟨doc', hq⟩ : ∃ doc', q.document.append d = some doc' := ⟨_, ModelDocument.append_eq_some_iff.2 ⟨hfree, rfl⟩⟩
    rw [hq]
    refine Beside.bind (beside_modify ⟨hadds.namer, hadds.namespaces, hadds.registry, ?_, fun n hn => ?_⟩)
      fun _ p' q' _ h' => copied_note _ p' q' h'
    · rw [ownTypes_append hp, ownTypes_append hq, hadds.types]
    · rw [ModelDocument.contains_append hq, Bool.or_eq_true] at hn
      rw [ModelDocument.contains_append hp, Bool.or_eq_true]
      exact hn.imp id (hadds.names n)

/-- every part that makes no objects goes alike without them -/
theorem copied : StepRules Copied where
  pure := copied_pure
  bind := Copied.bind
  fail := copied_fail
  note := copied_note
  nameFor := copied_nameFor
  isRegistered := copied_isRegistered
  register := copied_register
  emit := copied_emit

-- from here on only the rules open these relations
attribute [irreducible] Beside Copied

/-! ## Whole translations -/

theorem beside_skipData (n : Node) (select : DataNode → Option α) (data : List DataNode) (hadds : AddsObjects q p) :
    Beside p q (skipData n select data) (skipData n select []) := by
  refine beside_of_rests ?_ hadds
  unfold skipData
  split
  · exact rests_note _
  · exact rests_pure ()

/-- a container at the top: its object is made when its types are there -/
theorem beside_translateContainer (hr : tree.Resolved) (hd : tree.Distinct) (h : Sound tree [] [] p) (hadds : AddsObjects q p)
    {n : Node} (hn : n ∈ tree.nodes) (hk : n.kind = .container) (data : List DataNode) :
    Beside p q (translateContainer n data) (translateContainer n []) := by
  have howns : tree.Owns (ownerOf n.head) := Tree.owns_node hn (by rw [hk]; rfl)
  unfold translateContainer
  refine Beside.bind ((copied_nameFor _ _).beside hadds) fun s p1 q1 hname hadds1 => ?_
  have h1 : Sound tree [] [] p1 := (Holds.ok (h.keeps_nameFor howns (.type .container)) hname).1
  refine Beside.bind ((copied_isRegistered _ _).beside hadds1) fun known p2 q2 hknown hadds2 => ?_
  have h2 : Sound tree [] [] p2 := (Holds.ok (h1.keeps_isRegistered .objectType s) hknown).1
  have htype : Copied (containerType n) := copied.containerTypeOf _ (copied.typeMembers _)
  refine Beside.bind (htype.beside hadds2) fun m p3 q3 hrun hadds3 => ?_
  obtain ⟨h3, -, ha⟩ := Holds.ok (h2.keeps_containerTypeOf hn hk (room_nil _) (keeps_typeMembers hr hn)) hrun
  have hcovered : Covered p3 n := by
    unfold Covered
    rw [hk]
    exact ⟨m, ha⟩
  have hripe : ∀ x ∈ Node.allIn n.children, Ripe p3 x := fun x hx =>
    h3.ripe hr hd hn hcovered x (by rw [Node.all_eq]; exact List.mem_cons_of_mem _ hx)
  -- from here on the second translation does nothing more
  refine beside_of_rests ?_ hadds3
  split
  · split
    · exact rests_pure ()
    · exact (rests_containerInstance ha hripe s _).bind fun _ _ _ => rests_pure ()
  · exact rests_pure ()

theorem beside_translateStatement (hr : tree.Resolved) (hd : tree.Distinct) (h : Sound tree [] [] p)
    (hadds : AddsObjects q p) {n : Node} (hn : n ∈ tree.nodes) (name : String) (data : List DataNode) :
    Beside p q (translateStatement tree name data n) (translateStatement tree name [] n) := by
  have hmembers : Copied (typeMembers n.children) := copied.typeMembers _
  unfold translateStatement
  split
  case h_1 =>
    split
    · exact (copied_note _).beside hadds
    · exact (copied_fail _).beside hadds
  case h_2 => exact ((copied.translateIdentity tree _).bind fun _ => copied_pure ()).beside hadds
  case h_3 hk => exact beside_translateContainer hr hd h hadds hn hk data
  case h_4 => exact ((copied.translateTypedef _).bind fun _ => copied_pure ()).beside hadds
  case h_5 =>
    exact Beside.bind ((copied.variableType _ _ _ _).beside hadds) fun _ _ _ _ hadds' => beside_skipData n _ data hadds'
  case h_6 =>
    exact Beside.bind ((copied.variableType _ _ _ _).beside hadds) fun _ _ _ _ hadds' => beside_skipData n _ data hadds'
  case h_7 =>
    exact Beside.bind ((copied.listTypesOf _ hmembers).beside hadds) fun _ _ _ _ hadds' => beside_skipData n _ data hadds'
  case h_8 =>
    have hchoice : Copied (choiceType n) := copied.choiceTypeOf _ fun _ => copied.caseTypesOf _ _
    exact (hchoice.bind fun _ => copied_pure ()).beside hadds
  case h_9 => exact (copied_fail _).beside hadds

theorem beside_translateTree (hr : tree.Resolved) (hd : tree.Distinct) (h : Sound tree [] [] p) (hadds : AddsObjects q p)
    (data : List DataNode) : Beside p q (translateTree tree data) (translateTree tree []) := by
  have hmodule : ∀ m ∈ tree.modules, ∀ p q, Sound tree [] [] p → AddsObjects q p →
      Beside p q (translateModule tree data m) (translateModule tree [] m) := by
    intro m hm p q h hadds
    unfold translateModule
    refine Beside.bind ((copied_note _).beside hadds) fun _ p' q' hnote hadds' => ?_
    refine beside_forM (I := Sound tree [] []) (fun n hn t t' ht hrun => ?_) (fun n hn t u ht htu => ?_) p' q' ?_ hadds'
    · exact (Holds.ok (ht.keeps_translateStatement hr hm hn data) hrun).1
    · exact beside_translateStatement hr hd ht htu (Tree.statement_mem_nodes hm hn) m.name data
    · exact (Holds.ok (h.keeps_note _) hnote).1
  unfold translateTree
  refine Beside.bind (beside_forM (I := Sound tree [] []) (fun m hm t t' ht hrun => ?_) hmodule p q h hadds)
    fun _ p' q' _ h' => beside_get (beside_modify ?_)
  · exact (Holds.ok (ht.keeps_translateModule hr hm data) hrun).1
  · exact ⟨h'.namer, h'.namespaces, h'.registry, h'.types, h'.names⟩

/-- without data no objects are made -/
theorem ownTypes_of_run (hr : tree.Resolved) (hd : tree.Distinct) {s : Settings} (h : run s tree [] = (.ok (), p)) :
    ownTypes p.document = p.document.definitions.toList := by
  have htop : ∀ n : Node, Stock.top p.namer [] .empty n = .empty := by
    intro n
    unfold Stock.top
    split
    · rename_i hfind
      cases hfind
    · rfl
  have hstock : ∀ ns : List Node, ns.foldl (Stock.top p.namer []) .empty = .empty := by
    intro ns
    induction ns with
    | nil => rfl
    | cons n ns ih => rw [List.foldl_cons, htop, ih]
  have hobjects : p.document.ofKind .object = [] := by
    have := (run_traced hr hd h).2
    rw [ite_self, hstock] at this
    exact congrArg Stock.objects this
  refine List.filter_eq_self.2 fun d hd => ?_
  simpa using List.filter_eq_nil_iff.1 hobjects d hd

/-- **Data does not change the types.** If a translation with data answers, in a schema whose modules have namespaces of their
own and whose data nodes, choices and cases have other names than their siblings, then the translation without data answers
too; both number the namespaces alike; and the design of the second is that of the first without its objects. -/
theorem translate_without_data {d : Document} (hresolve : d.resolve = .ok tree) (hd : tree.Distinct) {s : Settings}
    {data : List DataNode} {doc : ModelDocument} (h : translate s tree data = .ok doc) : ∃ p q,
      run s tree data = (.ok (), p) ∧ p.document = doc ∧ run s tree [] = (.ok (), q) ∧
      translate s tree [] = .ok q.document ∧ p.namer.prefixes = q.namer.prefixes ∧
      doc.definitions.toList.filter (·.kind ≠ .object) = q.document.definitions.toList := by
  have hr := Document.resolve_resolved hresolve
  obtain ⟨p, hrun, rfl⟩ := translate_eq_ok_iff.1 h
  have hbeside := beside_translateTree hr hd (sound_start tree s.target (designNamespaces s)) (AddsObjects.refl _)
    (if s.materialize then data else [])
  obtain ⟨q, hrun', hadds⟩ := hbeside.answer hrun
  have hwithout : run s tree [] = (.ok (), q) := by
    unfold run
    rw [ite_self]
    exact hrun'
  refine ⟨p, q, hrun, rfl, hwithout, translate_eq_ok_iff.2 ⟨q, hwithout, rfl⟩, ?_, ?_⟩
  · rw [Namer.prefixes, Namer.prefixes, hadds.namespaces]
  · exact hadds.types.trans (ownTypes_of_run hr hd hwithout)

/-- the ten types of the mixed schema are those of a design with and without the three objects -/
theorem mixedData_left_out : ∃ tree doc doc', mixedSchema.resolve = .ok tree ∧ tree.Distinct ∧
    translate (.default 0) tree mixedData = .ok doc ∧ translate (.default 0) tree [] = .ok doc' ∧
    doc.definitions.toList.filter (·.kind ≠ .object) = doc'.definitions.toList ∧ (doc.ofKind .object).length = 3 := by
  obtain ⟨doc, hdoc, hobjects⟩ := translate_mixedData
  obtain ⟨p, q, -, -, -, hwithout, -, htypes⟩ := translate_without_data resolve_mixedSchema mixedTree_distinct hdoc
  exact ⟨mixedTree, doc, q.document, resolve_mixedSchema, mixedTree_distinct, hdoc, hwithout, htypes, hobjects⟩

end YangDesign.Translate
