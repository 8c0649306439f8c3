/-
Data at the top, and what a translation makes of it.

Decoding finds the node of a name also in the choices at the top of a module. A translation looks for data at the statements
themselves, so a data node counts only if a statement at the top carries it (`Tree.takes`). Then there is the object of a container for it,
or a warning that it is skipped (`Answered`); this is kept along the statements (`Reached`). The data that no statement carries
stand in choices, and a translation is the same without them (`run_filter`): no object, no warning. `run_top_data` says both
for the data decoded from a document.
-/
import YangDesign.Proofs.Instance.Lookup
import YangDesign.Proofs.Translate.Tracing

namespace YangDesign.Translate

open Design Instance Schema Progress

variable {tree : Tree} {p q : Progress} {data : List DataNode}

/-- whether a statement at the top of a module carries a data node -/
def Tree.takes (t : Tree) (d : DataNode) : Bool :=
  t.statements.any fun n => Node.carries n d

theorem Tree.takes_of_mem {n : Node} (hn : n ∈ tree.statements) {d : DataNode} (hd : Node.carries n d = true) :
    Tree.takes tree d = true :=
  List.any_eq_true.2 ⟨n, hn, hd⟩

/-! ## Data that is not taken -/

/-- a statement does not depend on data that it does not carry -/
theorem translateStatement_filter (tree : Tree) (name : String) (data : List DataNode) {keep : DataNode → Bool} {n : Node}
    (h : ∀ d, Node.carries n d = true → keep d = true) :
    translateStatement tree name (data.filter keep) n = translateStatement tree name data n := by
  have hkept : ∀ {α : Type} (select : DataNode → Option α), (∀ d : DataNode, d.fits n.kind = (select d).isSome) →
      findChild? select n.head.name (data.filter keep) = findChild? select n.head.name data := by
    intro α select hfits
    refine findChild?_filter fun d _ hname hselect => h d ?_
    rw [Node.carries, hfits, hselect, Bool.and_true, decide_eq_true_eq]
    exact hname
  unfold translateStatement
  split
  case h_3 hk =>
    unfold translateContainer
    rw [hkept DataNode.containerChildren? fun d => by rw [hk, DataNode.fits]]
  case h_5 type hk =>
    unfold skipData
    rw [hkept DataNode.leafValue? fun d => by rw [hk, DataNode.fits]]
  case h_6 type hk =>
    unfold skipData
    rw [hkept DataNode.leafListValues? fun d => by rw [hk, DataNode.fits]]
  case h_7 keys hk =>
    unfold skipData
    rw [hkept DataNode.listEntries? fun d => by rw [hk, DataNode.fits]]
  case h_1 | h_2 | h_4 | h_8 | h_9 => rfl

theorem translateTree_filter (tree : Tree) (data : List DataNode) :
    translateTree tree (data.filter (Tree.takes tree)) = translateTree tree data := by
  have hstatements : ∀ m ∈ tree.modules,
      m.statements.forM (translateStatement tree m.name (data.filter (Tree.takes tree))) =
        m.statements.forM (translateStatement tree m.name data) :=
    fun m hm => forM_congr fun n hn => translateStatement_filter tree m.name data fun d hd =>
      Tree.takes_of_mem (List.mem_flatMap.2 ⟨m, hm, hn⟩) hd
  have hmodules : tree.modules.forM (translateModule tree (data.filter (Tree.takes tree))) =
      tree.modules.forM (translateModule tree data) :=
    forM_congr fun m hm => by rw [translateModule, translateModule, hstatements m hm]
  rw [translateTree, translateTree, hmodules]

/-- **A translation is the same without the data that no statement at the top carries.** -/
theorem run_filter (s : Settings) (tree : Tree) (data : List DataNode) :
    run s tree (data.filter (Tree.takes tree)) = run s tree data := by
  unfold run
  split
  · rw [translateTree_filter]
  · rfl

/-! ## Data that is taken -/

/-- what is to be seen of the data of a statement: an object for a container, a warning for other data -/
def Shown (nm : Namer) (data : List DataNode) (p : Progress) (n : Node) : Prop :=
  match n.kind with
  | .container => ∃ ds, findChild? DataNode.containerChildren? n.head.name data = some ds ∧
      topObject nm n.head (membersFor nm ds (some (topEnclosing nm n.head)) n.children) ∈ p.document.definitions
  | _ => .skippedTopLevel n.label ∈ p.journal

/-- one of some statements carries a data node and shows its data -/
def Answered (nm : Namer) (data : List DataNode) (p : Progress) (ns : List Node) (d : DataNode) : Prop :=
  ∃ n ∈ ns, Node.carries n d = true ∧ Shown nm data p n

theorem Shown.mono {nm : Namer} {n : Node} (h : Shown nm data p n) (l : p.Later q) : Shown nm data q n := by
  unfold Shown at h ⊢
  split at h
  · obtain ⟨ds, hds, ho⟩ := h
    obtain ⟨i, hi⟩ := Array.mem_iff_getElem?.1 ho
    exact ⟨ds, hds, Array.mem_of_getElem? (l.document.definitions i _ hi)⟩
  · exact l.journal.subset h

theorem Answered.mono {nm : Namer} {ns ms : List Node} {d : DataNode} (h : Answered nm data p ns d) (l : p.Later q)
    (hm : ∀ n ∈ ns, n ∈ ms) : Answered nm data q ms d := by
  obtain ⟨n, hn, hd, hs⟩ := h
  exact ⟨n, hm n hn, hd, hs.mono l⟩

/-- a state in which some statements have been translated, and the data that they carry has been answered -/
structure Reached (tree : Tree) (data : List DataNode) (met : List Node) (p : Progress) : Prop where
  sound : Sound tree [] [] p
  recorded : Recorded (· ∈ Node.allIn met) p
  answered : ∀ n ∈ met, ∀ d ∈ data, Node.carries n d = true → ∀ nm, p.namer.Grows nm → Answered nm data p met d

theorem Reached.note {met : List Node} (h : Reached tree data met p) (e : Event) :
    Holds (note e) p (fun _ t => Reached tree data met t) fun _ => True := by
  refine Holds.mono ((h.sound.keeps_note e).and (h.recorded.follows_note e)) (fun _ t ht => ?_) fun _ _ => trivial
  obtain ⟨⟨hsound, l, -⟩, hrecorded, -⟩ := ht
  exact ⟨hsound, hrecorded, fun n hn d hd hcarries nm hnm =>
    (h.answered n hn d hd hcarries nm (l.namer.trans hnm)).mono l fun _ hx => hx⟩

/-- there is a warning if a statement carries data -/
def Warned (data : List DataNode) (n : Node) (p : Progress) : Prop :=
  ∀ d ∈ data, Node.carries n d = true → .skippedTopLevel n.label ∈ p.journal

theorem warned_of_fits {n : Node} (h : ∀ d : DataNode, d.fits n.kind = false) (data : List DataNode) (p : Progress) :
    Warned data n p := by
  intro d _ hn
  rw [Node.carries, h d, Bool.and_false] at hn
  cases hn

/-- the last step of a statement whose data is skipped -/
theorem holds_skipData {α β : Type} (x : Translator β) {n : Node} {select : DataNode → Option α}
    (h : ∀ d : DataNode, d.fits n.kind = (select d).isSome) (data : List DataNode) :
    Holds (do let _ ← x; skipData n select data) p (fun _ t => Warned data n t) fun _ => True := by
  refine Holds.bind (holds_of_forall (fun _ _ => ?_) fun _ => trivial)
  unfold skipData
  split
  · exact holds_modify fun _ _ _ => List.mem_append_right _ (List.mem_singleton_self _)
  · rename_i hnone
    refine holds_pure fun d hd hn => absurd (isSome_findChild?.2 ⟨d, hd, ?_⟩) hnone
    rwa [Node.carries, h, Bool.and_eq_true, decide_eq_true_eq] at hn

/-- data of a statement that is no container is skipped with a warning -/
theorem holds_warned (tree : Tree) (name : String) (data : List DataNode) {n : Node} (hk : n.kind ≠ .container) :
    Holds (translateStatement tree name data n) p (fun _ t => Warned data n t) fun _ => True := by
  obtain ⟨head, kind, children⟩ := n
  cases kind with
  | container => exact absurd rfl hk
  | leaf type => exact holds_skipData (leafType head type) (fun d => by simp only [DataNode.fits]) data
  | leafList type => exact holds_skipData (leafListType head type) (fun d => by simp only [DataNode.fits]) data
  | list keys => exact holds_skipData (listTypes _) (fun d => by simp only [DataNode.fits]) data
  | choice | case | typedef | identity | other =>
    exact holds_of_forall (fun _ => warned_of_fits (fun d => by simp only [DataNode.fits]) data) fun _ => trivial

/-- a statement at the top is a node, and its path is its name -/
theorem path_of_statement (hr : tree.Resolved) {x : Node} (hx : x ∈ tree.statements) :
    x ∈ tree.nodes ∧ x.head.path = [x.label] := by
  obtain ⟨m, hm, hx⟩ := List.mem_flatMap.1 hx
  exact ⟨Tree.statement_mem_nodes hm hx, (hr.top m hm x hx).2⟩

/-- the nodes of some statements at the top and of one more -/
theorem mem_nodes_of_met {met : List Node} (hmet : ∀ x ∈ met, x ∈ tree.statements) {n : Node} (hn : n ∈ tree.statements) :
    ∀ x ∈ Node.allIn met ++ n.all, x ∈ tree.nodes := by
  rw [Tree.nodes_eq, List.forall_mem_append]
  refine ⟨fun x hx => ?_, fun x hx => Node.mem_allIn.2 ⟨n, hn, hx⟩⟩
  obtain ⟨y, hy, hxy⟩ := Node.mem_allIn.1 hx
  exact Node.mem_allIn.2 ⟨y, hmet y hy, hxy⟩

/-- a container at the place of another one at the top has its name -/
theorem name_of_repeated (hr : tree.Resolved) {met : List Node} (hmet : ∀ x ∈ met, x ∈ tree.statements) {n : Node}
    (hn : n ∈ tree.statements) (h : Repeated (· ∈ Node.allIn met) n) :
    ∃ x ∈ met, x.kind = .container ∧ x.head.name = n.head.name := by
  obtain ⟨-, y, hy, hk, howner⟩ := h
  obtain ⟨x, hx, hyx⟩ := Node.mem_allIn.1 hy
  obtain ⟨hxn, hxpath⟩ := path_of_statement hr (hmet x hx)
  obtain ⟨-, hnpath⟩ := path_of_statement hr hn
  have hpath : y.head.path = n.head.path := congrArg Owner.path howner
  -- the place of a container at the top is too short for a node below another one
  obtain ⟨-, -, rfl | ⟨-, hlong⟩⟩ := hr.place_of_mem_all hxn y hyx
  · refine ⟨y, hx, hk, ?_⟩
    have huri : y.head.name.namespaceUri = n.head.name.namespaceUri := congrArg Owner.namespaceUri howner
    have hlabel : y.head.name.localName = n.head.name.localName := by
      rw [hxpath, hnpath] at hpath
      exact List.singleton_injective hpath
    calc y.head.name = ⟨y.head.name.namespaceUri, y.head.name.localName⟩ := rfl
      _ = ⟨n.head.name.namespaceUri, n.head.name.localName⟩ := by rw [huri, hlabel]
      _ = n.head.name := rfl
  · rw [hpath, hxpath, hnpath] at hlong
    simp at hlong

/-- the object of a container whose data is in stock -/
theorem shown_of_stock {nm : Namer} {n : Node} (hk : n.kind = .container) {d : DataNode} (hd : d ∈ data)
    (hn : Node.carries n d = true) {k : Stock} (h : p.stock = Stock.top nm data k n) : Shown nm data p n := by
  rw [Node.carries, hk, DataNode.fits, Bool.and_eq_true, decide_eq_true_eq] at hn
  obtain ⟨ds, hds⟩ := Option.isSome_iff_exists.1 (isSome_findChild?.2 ⟨d, hd, hn⟩)
  unfold Shown
  rw [hk]
  refine ⟨ds, hds, ?_⟩
  have hmem : topObject nm n.head (membersFor nm ds (some (topEnclosing nm n.head)) n.children) ∈ p.stock.objects := by
    rw [h, Stock.top, hk, hds]
    exact List.mem_append_right _ (List.mem_singleton_self _)
  exact Array.mem_toList_iff.1 (List.mem_filter.1 hmem).1

/-- one more statement -/
theorem Reached.translateStatement (hr : tree.Resolved) {met : List Node} (h : Reached tree data met p)
    (hmet : ∀ x ∈ met, x ∈ tree.statements) {m : Module} (hm : m ∈ tree.modules) {n : Node} (hn : n ∈ m.statements) :
    Holds (translateStatement tree m.name data n) p (fun _ t => Reached tree data (met ++ [n]) t) fun _ => True := by
  have htop : n ∈ tree.statements := List.mem_flatMap.2 ⟨m, hm, hn⟩
  have hstep := (h.sound.keeps_translateStatement hr hm hn data).and
    (h.recorded.follows_next hr (mem_nodes_of_met hmet htop) m.name data)
  have hwarned : Holds (Translate.translateStatement tree m.name data n) p
      (fun _ t => n.kind ≠ .container → Warned data n t) fun _ => True := by
    by_cases hk : n.kind = .container
    · exact holds_of_forall (fun _ _ h => absurd hk h) fun _ => trivial
    · exact (holds_warned tree m.name data hk).imp fun _ _ ht _ => ht
  refine (hstep.and hwarned).mono (fun _ t ht => ?_) fun _ _ => trivial
  obtain ⟨⟨⟨hsound, l, -⟩, hrecorded, -, hstock⟩, hwarn⟩ := ht
  refine ⟨hsound, hrecorded, fun x hx d hd hcarries nm hnm => ?_⟩
  have hbefore : ∀ y ∈ met, Node.carries y d = true → Answered nm data t (met ++ [n]) d := fun y hy hyd =>
    (h.answered y hy d hd hyd nm (l.namer.trans hnm)).mono l fun z hz => List.mem_append_left _ hz
  rcases List.mem_append.1 hx with hx | hx
  · exact hbefore x hx hcarries
  rw [List.mem_singleton.1 hx] at hcarries
  have hself : Shown nm data t n → Answered nm data t (met ++ [n]) d :=
    fun hs => ⟨n, List.mem_append_right _ (List.mem_singleton_self n), hcarries, hs⟩
  by_cases hk : n.kind = .container
  · rcases hstock nm hnm with hadded | ⟨hrepeated, -⟩
    · exact hself (shown_of_stock hk hd hcarries hadded)
    · obtain ⟨y, hy, hyk, hname⟩ := name_of_repeated hr hmet htop hrepeated
      refine hbefore y hy ?_
      rwa [Node.carries, hk, ← hname, ← hyk] at hcarries
  · refine hself ?_
    unfold Shown
    split
    · exact absurd ‹_› hk
    · exact hwarn hk d hd hcarries

/-- **Data that is taken is answered.** -/
theorem run_answered (hr : tree.Resolved) {s : Settings} (hs : s.materialize = true) (h : run s tree data = (.ok (), p))
    {d : DataNode} (hd : d ∈ data) (htaken : Tree.takes tree d = true) :
    Answered p.namer data p tree.statements d := by
  have hstart : Reached tree data [] (.start (.new s.target (designNamespaces s))) :=
    ⟨sound_start tree _ _, recorded_start _ _, fun n hn => by cases hn⟩
  have htree := holds_translateTree (R := Reached tree data) (fun _ _ e hmet => hmet.note e)
    (fun _ _ hmet hreached m hm n hn => hreached.translateStatement hr hmet hm hn) hstart
  unfold run at h
  rw [if_pos hs] at h
  obtain ⟨n, hn, hcarries⟩ := List.any_eq_true.1 htaken
  exact (Holds.ok htree h).answered n hn d hd hcarries p.namer (Namer.Grows.refl _)

/-! ## Decoded data -/

/-- the schema node that data at the top was decoded for -/
theorem declared_of_decode {members : List (Value × Value)} (h : decode tree members = .ok data) :
    ∀ d ∈ data, ∃ m ∈ tree.modules, ∃ n inChoice, declared? d.name false m.statements = some (n, inChoice) ∧
      Node.carries n d = true := by
  intro d hd
  obtain ⟨⟨k, v⟩, -, hkv⟩ := forall₂_mem_left (ok_of_mapM h).flip hd
  obtain ⟨member, -, hmember⟩ := ok_of_bind hkv
  unfold decodeTop at hmember
  split at hmember
  · cases hmember
  · split at hmember
    · cases hmember
    · rename_i localName _ _ m hm
      rw [decodeAmong_eq tree _ _ _ _ false] at hmember
      cases hfound : declared? ⟨m.namespaceUri, localName⟩ false m.statements with
      | none =>
        rw [hfound] at hmember
        cases hmember
      | some found =>
        obtain ⟨n, inChoice⟩ := found
        rw [hfound, Option.map_some, Option.getD_some] at hmember
        have hcarries := carries_of_decodeNode hmember
        refine ⟨m, List.mem_of_find?_eq_some hm, n, inChoice, ?_, hcarries⟩
        rw [Node.carries, Bool.and_eq_true, decide_eq_true_eq] at hcarries
        rw [hcarries.1, name_of_declared? _ hfound]
        exact hfound

/-- **What becomes of data at the top.** If a translation that makes objects for data answers, then each data node that was
decoded at the top is carried by a statement there, and its data is shown by an object or by a warning that it is skipped; or it
was found in a choice, and no statement at the top carries it. Data of the second sort are lost without a trace: the translation
is the same, with its design and its journal, for any data that differs in such data nodes only. -/
theorem run_top_data {doc : Document} (hresolve : doc.resolve = .ok tree) {members : List (Value × Value)}
    (hdecode : decode tree members = .ok data) {s : Settings} (hs : s.materialize = true)
    (h : run s tree data = (.ok (), p)) :
    (∀ d ∈ data, Answered p.namer data p tree.statements d ∨ Tree.takes tree d = false ∧
      ∃ m ∈ tree.modules, ∃ n, declared? d.name false m.statements = some (n, true)) ∧
    ∀ data', data'.filter (Tree.takes tree) = data.filter (Tree.takes tree) → run s tree data' = (.ok (), p) := by
  have hr := Document.resolve_resolved hresolve
  refine ⟨fun d hd => ?_, fun data' hsame => ?_⟩
  · cases htaken : Tree.takes tree d with
    | true => exact Or.inl (run_answered hr hs h hd htaken)
    | false =>
      obtain ⟨m, hm, n, inChoice, hfound, hcarries⟩ := declared_of_decode hdecode d hd
      cases inChoice with
      | true => exact Or.inr ⟨rfl, m, hm, n, hfound⟩
      | false =>
        have htop : n ∈ tree.statements := List.mem_flatMap.2 ⟨m, hm, mem_of_declared? hfound⟩
        cases htaken.symm.trans (Tree.takes_of_mem htop hcarries)
  · rw [← run_filter, hsame, run_filter]
    exact h

/-! ## A leaf in a choice at the top -/

/-- a container, a leaf, and a choice with a leaf -/
def besideChoice : Document :=
  let text := TypeRef.mk "string" none none
  ⟨[⟨"m", "urn:m", "m", none, [.named "c" none .container [], .named "y" none (.leaf text) [],
    .named "o" none .choice [.named "x" none (.leaf text) []]]⟩]⟩

/-- the tree of the schema -/
def besideChoiceTree : Tree :=
  let node := fun (path : List String) (name : String) (kind : NodeKind) (children : List Node) =>
    Node.mk ⟨⟨"urn:m", name⟩, path ++ [name], none⟩ kind children
  let leaf := fun (path : List String) (name : String) =>
    node path name (.leaf (some ⟨⟨"urn:m", "string"⟩, path ++ [name, "string"], .builtIn .string, none, [], none⟩)) []
  ⟨[⟨"m", "urn:m", "m", [node [] "c" .container [], leaf [] "y",
    node [] "o" .choice [node ["o"] "x" .case [leaf ["o", "x"] "x"]]], none⟩]⟩

/-- data for the container and for both leaves -/
def besideChoiceData : List DataNode :=
  [.container ⟨"urn:m", "c"⟩ [], .leaf ⟨"urn:m", "y"⟩ (.text "Y"), .leaf ⟨"urn:m", "x"⟩ (.text "X")]

/-- a run that answers in a state that passes a test -/
theorem answer_of_test (x : Except Failure Unit × Progress) (test : Progress → Bool)
    (h : (x.1.isOk && test x.2) = true) : ∃ p, x = (.ok (), p) ∧ test p = true := by
  obtain ⟨r | r, p⟩ := x
  · cases h
  · exact ⟨p, rfl, h⟩

/-- there is one object, for the container, and one warning, for the leaf beside the choice; the leaf in the choice is lost -/
theorem besideChoice_lost : ∃ p, besideChoice.resolve = .ok besideChoiceTree ∧
    decode besideChoiceTree [(.text "m:c", .map []), (.text "m:y", .text "Y"), (.text "m:x", .text "X")] =
      .ok besideChoiceData ∧
    (Settings.default 0).materialize = true ∧ run (.default 0) besideChoiceTree besideChoiceData = (.ok (), p) ∧
    (p.document.ofKind .object).map (·.name.name) = ["ns0__cContainerInstance"] ∧
    p.journal.from .warning = [.skippedTopLevel "y"] ∧
    run (.default 0) besideChoiceTree (besideChoiceData.take 2) = (.ok (), p) := by
  have hresolve : besideChoice.resolve = .ok besideChoiceTree := rfl
  have hdecode : decode besideChoiceTree
      [(.text "m:c", .map []), (.text "m:y", .text "Y"), (.text "m:x", .text "X")] = .ok besideChoiceData := by
    cbv
  obtain ⟨p, hrun, htest⟩ := answer_of_test (run (.default 0) besideChoiceTree besideChoiceData)
    (fun p => (p.document.ofKind .object).map (·.name.name) == ["ns0__cContainerInstance"] &&
      p.journal.from .warning == [.skippedTopLevel "y"]) (by decide +kernel)
  rw [Bool.and_eq_true, beq_iff_eq, beq_iff_eq] at htest
  obtain ⟨-, hsame⟩ := run_top_data hresolve hdecode rfl hrun
  exact ⟨p, hresolve, hdecode, rfl, hrun, htest.1, htest.2, hsame _ rfl⟩

end YangDesign.Translate
