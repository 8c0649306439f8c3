/-
Whole translations.

`run_sound`: a translation that answers ends in a sound state in which nothing is left to be emitted, and every statement at
the top of a module has been translated. `run_refusal`: a translation that fails refuses the tree for a reason.
`holds_translateTree`: what holds at the start and is kept by notes and by each statement holds at the end.
-/
import YangDesign.Proofs.Translate.Members

namespace YangDesign.Translate

open Design Instance Schema Progress

variable {tree : Tree} {p : Progress}

/-- a node at the top of a module has been translated -/
structure TopCovered (p : Progress) (n : Node) : Prop where
  covered : Covered p n
  identity : ∀ bases, n.kind = .identity bases → ∃ s, p.Asked .identity (ownerOf n.head) s

theorem TopCovered.mono {p q : Progress} {n : Node} (h : TopCovered p n) (l : p.Later q) : TopCovered q n :=
  ⟨h.covered.mono l, fun bases hk => (h.identity bases hk).imp fun _ ha => ha.mono l⟩

theorem topCovered_of_kind {n : Node} (h : Covered p n) (hk : ∀ bases, n.kind ≠ .identity bases) : TopCovered p n :=
  ⟨h, fun bases hb => absurd hb (hk bases)⟩

theorem Sound.keeps_skipData {α : Type} (h : Sound tree [] [] p) (n : Node) (select : DataNode → Option α)
    (data : List DataNode) : Keeps tree [] [] p (skipData n select data) fun _ _ => True := by
  unfold skipData
  split
  · exact Keeps.imp (h.keeps_note _) fun _ _ _ _ _ => trivial
  · exact h.keeps_pure trivial

theorem keeps_typeMembers (hr : tree.Resolved) {n : Node} (hn : n ∈ tree.nodes) :
    Fills tree (n.head.path.length + 1) n.children (typeMembers n.children) :=
  keeps_membersOf hr n.children hn (fun _ hc => hc) [] none

/-- the object for a container whose type was new -/
theorem Sound.keeps_containerInstance (hr : tree.Resolved) {n : Node} (h : Sound tree [⟨.container, ownerOf n.head⟩] [] p)
    (hn : n ∈ tree.nodes) (hk : n.kind = .container) {type : SymbolicName} (ha : p.Asked .container (ownerOf n.head) type)
    (data : List DataNode) :
    Holds (containerInstance n type data) p (fun _ t => Sound tree [] [] t ∧ p.Later t) (Refusal tree) := by
  have howns : tree.Owns (ownerOf n.head) := Tree.owns_node hn (by rw [hk]; rfl)
  have hroom : ∀ k, Room [⟨.container, ownerOf n.head⟩] k := fun k => (room_nil k).object (by simp)
  unfold containerInstance
  refine Holds.bind (Holds.imp (h.keeps_nameFor howns .container) fun s t1 ht1 => ?_)
  obtain ⟨h1, l1, hs, -⟩ := ht1
  dsimp only [visibleNames]
  refine Holds.bind (Holds.imp (keeps_membersOf hr n.children hn (fun _ hc => hc) data _ h1 (hroom _)) fun ms t2 ht2 => ?_)
  obtain ⟨h2, l2, hms, -⟩ := ht2
  have hbegun : t2.Begun ⟨.container, ownerOf n.head⟩ := ⟨type, ha.mono (l1.trans l2)⟩
  have hready : t2.Ready type := h2.ready_of_asked (ha.mono (l1.trans l2)) (hroom _)
  refine Holds.bind (Holds.imp (h2.holds_emit (hs.mono l2) hbegun
    (fit_object hready (Or.inl (isStandard_builtInName (by decide))) hms) (closes_of_object (by simp))) fun _ t3 ht3 => ?_)
  exact holds_pure ⟨ht3.1.drop (by simp), (l1.trans l2).trans ht3.2.1⟩

theorem Sound.keeps_translateContainer (hr : tree.Resolved) (h : Sound tree [] [] p) {n : Node} (hn : n ∈ tree.nodes)
    (hk : n.kind = .container) (data : List DataNode) :
    Keeps tree [] [] p (translateContainer n data) fun _ t => Covered t n := by
  have howns : tree.Owns (ownerOf n.head) := Tree.owns_node hn (by rw [hk]; rfl)
  have hcovered : ∀ {q : Progress} {s : SymbolicName}, q.Asked .container (ownerOf n.head) s → Covered q n := by
    intro q s ha
    unfold Covered
    rw [hk]
    exact ⟨s, ha⟩
  unfold translateContainer
  refine Keeps.bind (h.keeps_nameFor howns (.type .container)) fun s t1 h1 l1 hs => ?_
  refine Keeps.bind (h1.keeps_isRegistered .objectType s) ?_
  rintro known t2 - - ⟨hknown, rfl⟩
  unfold containerType
  split
  · cases known with
    | true =>
      refine Keeps.bind (h1.keeps_containerTypeOf hn hk (room_nil _) (keeps_typeMembers hr hn)) fun m t3 h3 _ hm => ?_
      exact h3.keeps_pure (hcovered hm)
    | false =>
      have hnew : ¬ t2.Begun ⟨.container, ownerOf n.head⟩ := by
        rintro ⟨m, hm⟩
        have := hm.registered
        rw [← hs.1.name_unique hm.named, show TypeRole.container.family = .objectType from rfl, ← hknown] at this
        cases this
      have hpush := h1.push (x := ⟨.container, ownerOf n.head⟩) (by simp) (fun hx => absurd rfl hx)
        fun m hm => h1.not_contains hm hnew
      have htype := hpush.keeps_containerTypeOf hn hk ((room_nil _).object (by simp)) (keeps_typeMembers hr hn)
      refine Holds.bind (Holds.imp htype fun m t3 ht3 => ?_)
      obtain ⟨h3, l3, hm⟩ := ht3
      have hname : m = s := hm.named.name_unique (hs.1.mono l3)
      subst hname
      refine Holds.bind (Holds.imp (h3.keeps_containerInstance hr hn hk hm _) fun d t4 ht4 => ?_)
      exact holds_pure ⟨ht4.1, l3.trans ht4.2, hcovered (hm.mono ht4.2)⟩
  · refine Keeps.bind (h1.keeps_containerTypeOf hn hk (room_nil _) (keeps_typeMembers hr hn)) fun m t3 h3 _ hm => ?_
    exact h3.keeps_pure (hcovered hm)

/-- one statement at the top of a module -/
theorem Sound.keeps_translateStatement (hr : tree.Resolved) (h : Sound tree [] [] p) {m : Module} {n : Node}
    (hm : m ∈ tree.modules) (hn : n ∈ m.statements) (data : List DataNode) :
    Keeps tree [] [] p (translateStatement tree m.name data n) fun _ t => TopCovered t n := by
  have hnode : n ∈ tree.nodes := Tree.statement_mem_nodes hm hn
  obtain ⟨head, kind, children⟩ := n
  unfold translateStatement
  cases kind with
  | other keyword argument =>
    dsimp only
    split
    · exact Keeps.imp (h.keeps_note _) fun _ _ _ _ _ => topCovered_of_kind trivial (by simp)
    · rename_i hkeyword
      exact keeps_unsupported (.statement hm hn (by simpa [NodeKind.isForeignAtTop] using hkeyword))
  | identity bases =>
    have hi : (⟨head, bases⟩ : Identity) ∈ tree.topIdentities := Tree.mem_topIdentities.2 ⟨m, hm, _, hn, rfl, rfl⟩
    exact Keeps.bind (h.keeps_translateIdentity hr hi) fun s t ht _ hs => ht.keeps_pure ⟨trivial, fun _ _ => ⟨s, hs⟩⟩
  | container =>
    exact Keeps.imp (h.keeps_translateContainer hr hnode rfl data) fun _ _ _ _ hc => topCovered_of_kind hc (by simp)
  | typedef type =>
    refine Keeps.bind (h.keeps_translateTypedef hr hnode rfl (room_nil 0).no_dataType) fun _ t ht _ hc => ?_
    exact ht.keeps_pure (topCovered_of_kind hc (by simp))
  | leaf type =>
    cases type with
    | none => exact absurd rfl (hr.nodes _ hnode).typed.1
    | some t =>
      have hvariable := h.keeps_variableType hr (r := .leaf) .scalar hnode (Or.inl ⟨rfl, rfl, rfl⟩) (room_nil 0).no_dataType
      refine Keeps.bind hvariable fun s t1 h1 _ hs => ?_
      exact Keeps.imp (h1.keeps_skipData _ _ _) fun _ _ _ l _ => topCovered_of_kind ⟨s, hs.mono l⟩ (by simp)
  | leafList type =>
    cases type with
    | none => exact absurd rfl (hr.nodes _ hnode).typed.2.1
    | some t =>
      have hvariable := h.keeps_variableType hr (r := .leafList) .array hnode (Or.inr ⟨rfl, rfl, rfl⟩)
        (room_nil 0).no_dataType
      refine Keeps.bind hvariable fun s t1 h1 _ hs => ?_
      exact Keeps.imp (h1.keeps_skipData _ _ _) fun _ _ _ l _ => topCovered_of_kind ⟨s, hs.mono l⟩ (by simp)
  | list keys =>
    have htypes := h.keeps_listTypesOf hnode rfl (room_nil _) (keeps_typeMembers hr hnode)
    refine Keeps.bind htypes fun types t1 h1 _ ht => ?_
    exact Keeps.imp (h1.keeps_skipData _ _ _) fun _ _ _ l _ =>
      topCovered_of_kind ⟨⟨_, ht.1.mono l⟩, ⟨_, ht.2.1.mono l⟩, ⟨_, ht.2.2.mono l⟩⟩ (by simp)
  | choice =>
    have hchoice := h.keeps_choiceTypeOf hnode rfl (f := fun name => caseTypesOf name children) fun hq hs =>
      keeps_caseTypesOf hr children hnode (fun c hc => ⟨hc, (hr.nodes _ hnode).cases rfl c hc⟩) hq (room_nil _) hs
    exact Keeps.bind hchoice fun s t ht _ hs => ht.keeps_pure (topCovered_of_kind ⟨s, hs⟩ (by simp))
  | case => exact keeps_unsupported (.statement hm hn rfl)

theorem Sound.keeps_translateModule (hr : tree.Resolved) (h : Sound tree [] [] p) {m : Module} (hm : m ∈ tree.modules)
    (data : List DataNode) :
    Keeps tree [] [] p (translateModule tree data m) fun _ t => ∀ n ∈ m.statements, TopCovered t n := by
  unfold translateModule
  refine Keeps.bind (h.keeps_note _) fun _ t ht _ _ => ?_
  exact keeps_forM (fun hc l => hc.mono l) (fun n hn u hu => hu.keeps_translateStatement hr hm hn data) ht

theorem keeps_translateTree (hr : tree.Resolved) (data : List DataNode) (h : Sound tree [] [] p) :
    Keeps tree [] [] p (translateTree tree data) fun _ t => ∀ m ∈ tree.modules, ∀ n ∈ m.statements, TopCovered t n := by
  unfold translateTree
  refine Keeps.bind (keeps_forM (R := fun t m => ∀ n ∈ m.statements, TopCovered t n)
    (fun hc l n hn => (hc n hn).mono l) (fun m hm q hq => hq.keeps_translateModule hr hm data) h) fun _ t ht _ hc => ?_
  refine Holds.bind (holds_get (Holds.imp (ht.keeps_note _) fun _ u hu => ?_))
  exact ⟨hu.1, hu.2.1, fun m hm n hn => (hc m hm n hn).mono hu.2.1⟩

/-! ## Statement after statement -/

section Walk

variable {data : List DataNode} {R : List Node → Progress → Prop}
  (hnote : ∀ met p e, R met p → Holds (note e) p (fun _ t => R met t) fun _ => True)
  (hstep : ∀ met p, (∀ x ∈ met, x ∈ tree.statements) → R met p → ∀ m ∈ tree.modules, ∀ n ∈ m.statements,
    Holds (translateStatement tree m.name data n) p (fun _ t => R (met ++ [n]) t) fun _ => True)

include hstep

theorem holds_statements {m : Module} (hm : m ∈ tree.modules) (ss : List Node) : (∀ n ∈ ss, n ∈ m.statements) →
    ∀ {met : List Node} {p : Progress}, (∀ x ∈ met, x ∈ tree.statements) → R met p →
    Holds (ss.forM (translateStatement tree m.name data)) p (fun _ t => R (met ++ ss) t) fun _ => True := by
  induction ss with
  | nil =>
    intro _ met p _ h
    rw [List.append_nil]
    exact holds_forM_nil h
  | cons n ss ih =>
    intro hss met p hmet h
    obtain ⟨hn, hss⟩ := List.forall_mem_cons.1 hss
    refine holds_forM_cons (Holds.imp (hstep met p hmet h m hm n hn) fun _ t ht => ?_)
    have hmore : ∀ x ∈ met ++ [n], x ∈ tree.statements :=
      List.forall_mem_append.2 ⟨hmet, List.forall_mem_singleton.2 (List.mem_flatMap.2 ⟨m, hm, hn⟩)⟩
    rw [List.append_cons]
    exact ih hss hmore ht

include hnote

theorem holds_modules (ms : List Module) : (∀ m ∈ ms, m ∈ tree.modules) →
    ∀ {met : List Node} {p : Progress}, (∀ x ∈ met, x ∈ tree.statements) → R met p →
    Holds (ms.forM (translateModule tree data)) p (fun _ t => R (met ++ ms.flatMap (·.statements)) t) fun _ => True := by
  induction ms with
  | nil =>
    intro _ met p _ h
    rw [List.flatMap_nil, List.append_nil]
    exact holds_forM_nil h
  | cons m ms ih =>
    intro hms met p hmet h
    obtain ⟨hm, hms⟩ := List.forall_mem_cons.1 hms
    refine holds_forM_cons (Holds.bind (Holds.imp (hnote met p _ h) fun _ t ht => ?_))
    refine Holds.imp (holds_statements hstep hm m.statements (fun _ hn => hn) hmet ht) fun _ u hu => ?_
    have hmore : ∀ x ∈ met ++ m.statements, x ∈ tree.statements :=
      List.forall_mem_append.2 ⟨hmet, fun x hx => List.mem_flatMap.2 ⟨m, hm, hx⟩⟩
    rw [List.flatMap_cons, ← List.append_assoc]
    exact ih hms hmore hu

/-- what notes keep, and each statement keeps with itself met, holds with all statements met -/
theorem holds_translateTree {p : Progress} (h : R [] p) :
    Holds (translateTree tree data) p (fun _ t => R tree.statements t) fun _ => True := by
  unfold translateTree
  have hmodules := holds_modules hnote hstep tree.modules (fun _ hm => hm) (fun _ hx => by cases hx) h
  exact Holds.bind (Holds.imp hmodules fun _ t ht => Holds.bind (holds_get (hnote _ _ _ ht)))

end Walk

/-! ## Results -/

variable {s : Settings} {data : List DataNode}

theorem keeps_run (hr : tree.Resolved) (s : Settings) (data : List DataNode) :
    Keeps tree [] [] (.start (.new s.target (designNamespaces s)))
      (translateTree tree (if s.materialize then data else []))
      fun _ t => ∀ m ∈ tree.modules, ∀ n ∈ m.statements, TopCovered t n :=
  keeps_translateTree hr _ (sound_start tree _ _)

/-- a translation that answers ends in a sound state, with nothing left to be emitted -/
theorem run_sound (hr : tree.Resolved) (h : run s tree data = (.ok (), p)) : Sound tree [] [] p :=
  (Holds.ok (keeps_run hr s data) h).1

/-- every statement at the top of a module is translated -/
theorem run_covered (hr : tree.Resolved) (h : run s tree data = (.ok (), p)) :
    ∀ m ∈ tree.modules, ∀ n ∈ m.statements, TopCovered p n :=
  (Holds.ok (keeps_run hr s data) h).2.2

/-- a translation makes names in the namespace of its design -/
theorem run_target (hr : tree.Resolved) (h : run s tree data = (.ok (), p)) : p.namer.target = s.target :=
  (Holds.ok (keeps_run hr s data) h).2.1.namer.target

/-- the type of every identity at the top of a module is registered -/
theorem run_identity (hr : tree.Resolved) (h : run s tree data = (.ok (), p)) {i : Identity} (hi : i ∈ tree.topIdentities) :
    ∃ n, p.Asked .identity (ownerOf i.head) n := by
  obtain ⟨m, hm, n, hn, hk, hhead⟩ := Tree.mem_topIdentities.1 hi
  rw [← hhead]
  exact (run_covered hr h m hm n hn).identity i.bases hk

/-- a translation that fails refuses the tree for a reason -/
theorem run_refusal (hr : tree.Resolved) {e : Failure} (h : run s tree data = (.error e, p)) : Refusal tree e :=
  Holds.error (keeps_run hr s data) h

/-- a translation answers if its modules do; it notes what they left -/
theorem run_eq_ok_iff : run s tree data = (.ok (), p) ↔ ∃ q,
    ((tree.modules.forM (translateModule tree (if s.materialize then data else []))).run
      (.start (.new s.target (designNamespaces s))) : Except Failure Unit × Progress) = (.ok (), q) ∧
    { q with journal := q.journal ++ [.generated q.document.size q.registry.size] } = p := by
  unfold run translateTree
  constructor
  · intro h
    obtain ⟨⟨⟩, q, hmodules, hnote⟩ := ok_of_run_bind h
    exact ⟨q, hmodules, congrArg Prod.snd hnote⟩
  · rintro ⟨q, hmodules, rfl⟩
    rw [run_bind, hmodules]
    rfl

theorem translate_eq_ok_iff {doc : ModelDocument} :
    translate s tree data = .ok doc ↔ ∃ p, run s tree data = (.ok (), p) ∧ p.document = doc := by
  unfold translate
  obtain ⟨r | r, q⟩ := run s tree data <;> simp

theorem translate_eq_error_iff {e : Failure} :
    translate s tree data = .error e ↔ ∃ p, run s tree data = (.error e, p) := by
  unfold translate
  obtain ⟨r | r, q⟩ := run s tree data <;> simp

end YangDesign.Translate
