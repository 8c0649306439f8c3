/-
Numbers of the elements of lists.

The elements of a list are the objects of its element type, `elementNames` their names in the order of the design.
`entriesAmong` counts the entries that the data of an object has of a list, in all objects below it, by a walk over the schema
that knows neither numbers nor names of elements.

`Draws list c k k'`: from the stock `k` to `k'` the list gets `c` elements, with the next `c` numbers in order, and the counter
goes on after them. An entry draws its own number before the objects inside it are made and its object is added after them
(`draws_entry`); this does not mix up the numbers because no list stands below one of the same name
(`ownName_ne_of_below`). `draws_fill` adds up the draws of the data below an object, and `Numbered` goes from statement to
statement. The result is `run_numbered`: the elements of a list are numbered from zero without a gap, in the order of the
design.
-/
import YangDesign.Proofs.Translate.TopData

namespace YangDesign.Translate

open Design Instance Schema Progress

variable {tree : Tree} {p q : Progress} {data : List DataNode}

/-! ## Elements -/

/-- the type of the elements of a list, from the name of the list -/
def elementType (list : SymbolicName) : SymbolicName :=
  ⟨list.namespaceUri, list.name ++ "ListElementType"⟩

/-- the name of an element of a list, from the name of the list and a number -/
def elementName (list : SymbolicName) (i : Nat) : SymbolicName :=
  ⟨list.namespaceUri, list.name ++ "ElementInstance" ++ toString i⟩

/-- the names of the elements of a list among some definitions: the objects of its element type, in order -/
def elementNames (list : SymbolicName) (ds : List Definition) : List SymbolicName :=
  ds.filterMap fun d =>
    match d.content with
    | .object (some t) _ _ => if t = elementType list then some d.name else none
    | _ => none

theorem elementType_injective {l m : SymbolicName} (h : elementType l = elementType m) : l = m := by
  obtain ⟨uri, name⟩ := l
  obtain ⟨uri', name'⟩ := m
  simpa [elementType] using h

theorem elementNames_append (list : SymbolicName) (ds es : List Definition) :
    elementNames list (ds ++ es) = elementNames list ds ++ elementNames list es :=
  List.filterMap_append

/-- only objects are elements -/
theorem elementNames_ofKind (list : SymbolicName) (d : ModelDocument) :
    elementNames list (d.ofKind .object) = elementNames list d.definitions.toList := by
  rw [elementNames, elementNames, ModelDocument.ofKind, List.filterMap_filter]
  apply List.filterMap_congr
  intro e _
  cases hc : e.content <;> simp [Definition.kind, Content.kind, hc]

/-! ### Spelling -/

namespace Namer

/-- a role stands at the end of a name -/
theorem spelling_eq (nm : Namer) (o : Owner) (q : Purpose) : nm.spelling o q.text = nm.spelling o "" ++ q.text := by
  rw [spelling, spelling, symbolText_append, symbolText_purpose, String.append_empty]

theorem typeName_element (nm : Namer) (h : Head) : nm.typeName .element h = elementType (nm.ownName h) := by
  simp only [typeName, ownName, symbol, elementType, SymbolicName.mk.injEq, true_and]
  exact nm.spelling_eq (ownerOf h) (.type .element)

theorem symbol_element (nm : Namer) (h : Head) (i : Nat) :
    nm.symbol (ownerOf h) (Purpose.element i).text = elementName (nm.ownName h) i := by
  simp only [ownName, symbol, elementName, SymbolicName.mk.injEq, true_and]
  rw [spelling_eq, Purpose.text, String.append_assoc]

/-- containers are no elements -/
theorem typeName_container_ne (nm : Namer) (h : Head) (list : SymbolicName) :
    nm.typeName .container h ≠ elementType list := by
  intro heq
  have hspelling : nm.spelling (ownerOf h) TypeRole.container.text = nm.spelling (ownerOf h) "" ++ "ContainerType" :=
    nm.spelling_eq (ownerOf h) (.type .container)
  have hname : nm.spelling (ownerOf h) "" ++ "ContainerType" = list.name ++ "ListElementType" := by
    rw [← hspelling]
    exact congrArg SymbolicName.name heq
  -- the last five characters tell the two apart
  have hchars : ((nm.spelling (ownerOf h) "").toList ++ "Containe".toList) ++ "rType".toList =
      (list.name.toList ++ "ListElemen".toList) ++ "tType".toList := by
    simpa using congrArg String.toList hname
  exact absurd (List.append_inj' hchars rfl).2 (by decide)

end Namer

/-- **A node below another one has another name.** Its path goes on where the other one ends. -/
theorem ownName_ne_of_below (hr : tree.Resolved) (nm : Namer) {x y : Node} (hx : x ∈ tree.nodes)
    (hy : y ∈ Node.allIn x.children) : nm.ownName y.head ≠ nm.ownName x.head := by
  obtain ⟨c, hc, hyc⟩ := Node.mem_allIn.1 hy
  obtain ⟨hcuri, hcpath⟩ := (hr.nodes x hx).below c hc
  obtain ⟨huri, ⟨rest, hrest⟩, -⟩ := hr.place_of_mem_all (Tree.child_mem_nodes hx hc) y hyc
  have hpath : y.head.path = x.head.path ++ c.label :: rest := by
    rw [← hrest, hcpath, List.append_assoc, List.singleton_append]
  have hseparator : (symbolText "___").length = 3 := by decide
  have hlonger : (nm.spelling (ownerOf x.head) "").length < (nm.spelling (ownerOf y.head) "").length := by
    rw [Namer.spelling, Namer.spelling, ownerOf, ownerOf, huri, hcuri, hpath]
    dsimp only
    rw [String.intercalate_append_of_ne_nil (hr.path_ne_nil x hx) (List.cons_ne_nil _ _)]
    simp only [symbolText_append, String.length_append, hseparator]
    omega
  intro heq
  have hlength : (nm.spelling (ownerOf y.head) "").length = (nm.spelling (ownerOf x.head) "").length :=
    congrArg (fun n => n.name.length) heq
  omega

/-! ## Entries -/

mutual

/-- the number of entries that the data for a node has of a list, in all objects below -/
def entriesAt (nm : Namer) (list : SymbolicName) (data : List DataNode) : Node → Nat
  | ⟨h, kind, children⟩ =>
    match kind with
    | .container =>
      match findChild? DataNode.containerChildren? h.name data with
      | some ds => entriesAmong nm list ds children
      | none => 0
    | .list _ =>
      match findChild? DataNode.listEntries? h.name data with
      | some entries =>
        (entries.map fun ds => (if nm.ownName h = list then 1 else 0) + entriesAmong nm list ds children).sum
      | none => 0
    | _ => 0

/-- the number of entries that the data of an object has of a list, in all objects below -/
def entriesAmong (nm : Namer) (list : SymbolicName) (data : List DataNode) : List Node → Nat
  | [] => 0
  | n :: ns => entriesAt nm list data n + entriesAmong nm list data ns

end

variable {nm : Namer} {list : SymbolicName}

mutual

/-- no entries of a list where no node has its name -/
theorem entriesAt_eq_zero : ∀ (n : Node), (∀ x ∈ n.all, nm.ownName x.head ≠ list) → ∀ (data : List DataNode),
    entriesAt nm list data n = 0
  | ⟨head, kind, children⟩, hn, data => by
    rw [Node.all, List.forall_mem_cons] at hn
    have hbelow : ∀ ds, entriesAmong nm list ds children = 0 := entriesAmong_eq_zero children hn.2
    cases kind <;> simp only [entriesAt]
    case container => split <;> simp [hbelow]
    case list => split <;> simp [hbelow, hn.1]

theorem entriesAmong_eq_zero : ∀ (ns : List Node), (∀ x ∈ Node.allIn ns, nm.ownName x.head ≠ list) →
    ∀ (data : List DataNode), entriesAmong nm list data ns = 0
  | [], _, _ => by rw [entriesAmong]
  | n :: ns, hns, data => by
    rw [Node.allIn, List.forall_mem_append] at hns
    rw [entriesAmong, entriesAt_eq_zero n hns.1 data, entriesAmong_eq_zero ns hns.2 data]

end

/-! ## Draws -/

/-- a list gets `c` elements with the next numbers, in order -/
structure Draws (list : SymbolicName) (c : Nat) (k k' : Stock) : Prop where
  names : elementNames list k'.objects =
    elementNames list k.objects ++ (List.range' (k.next list) c).map (elementName list)
  next : k'.next list = k.next list + c

namespace Draws

variable {k k' k'' : Stock} {c c' : Nat}

theorem refl (k : Stock) : Draws list 0 k k :=
  ⟨by simp, rfl⟩

theorem trans (h : Draws list c k k') (h' : Draws list c' k' k'') : Draws list (c + c') k k'' := by
  constructor
  · rw [h'.names, h.names, h.next, List.append_assoc, ← List.map_append, List.range'_append_1]
  · rw [h'.next, h.next, Nat.add_assoc]

theorem foldl {α : Type} {f : Stock → α → Stock} {count : α → Nat} (xs : List α)
    (h : ∀ x ∈ xs, ∀ k, Draws list (count x) k (f k x)) (k : Stock) :
    Draws list (xs.map count).sum k (xs.foldl f k) := by
  induction xs generalizing k with
  | nil => exact refl k
  | cons x xs ih =>
    rw [List.forall_mem_cons] at h
    rw [List.map_cons, List.sum_cons, List.foldl_cons]
    exact (h.1 k).trans (ih h.2 (f k x))

end Draws

theorem next_count (k : Stock) (l m : SymbolicName) : (k.count l).next m = if l = m then k.next l + 1 else k.next m := by
  simp only [Stock.count, Stock.next, Assoc.find?_insert]
  split <;> rfl

theorem elementNames_add (k : Stock) (d : Definition) :
    elementNames list (k.add d).objects = elementNames list k.objects ++ elementNames list [d] :=
  elementNames_append list k.objects [d]

/-- the object of a container is no element -/
theorem draws_topObject (k : Stock) (h : Head) (ms : List Member) : Draws list 0 k (k.add (topObject nm h ms)) := by
  have hnone : elementNames list [topObject nm h ms] = [] := by
    simp [elementNames, topObject, nm.typeName_container_ne h list]
  constructor
  · rw [elementNames_add, hnone]
    rfl
  · rfl

theorem elementNames_entryObject (h : Head) (owner : Enclosing) (i : Nat) (ms : List Member) :
    elementNames list [entryObject nm h owner i ms] = if nm.ownName h = list then [elementName list i] else [] := by
  simp only [elementNames, entryObject, List.filterMap_cons, List.filterMap_nil, nm.typeName_element h]
  by_cases heq : nm.ownName h = list
  · subst heq
    simp [Definition.name, nm.symbol_element h i]
  · have hother : elementType (nm.ownName h) ≠ elementType list := fun ht => heq (elementType_injective ht)
    simp [heq, hother]

/-- **An entry of a list.** Its number is drawn before those of the entries inside it, and its object is added after theirs; if
it is an entry of the list itself, there are none inside it. -/
theorem draws_entry {h : Head} {c : Nat} (owner : Enclosing) (members : List DataNode → Enclosing → List Member)
    {inside : List DataNode → Enclosing → Stock → Stock} {ds : List DataNode}
    (hinside : ∀ e k, Draws list c k (inside ds e k)) (hself : nm.ownName h = list → c = 0) (k : Stock) :
    Draws list ((if nm.ownName h = list then 1 else 0) + c) k (Stock.entry nm h owner members inside k ds) := by
  have hin := hinside (entryEnclosing nm h (k.next (nm.ownName h))) (k.count (nm.ownName h))
  have hnames := hin.names
  have hnext := hin.next
  rw [next_count] at hnames hnext
  by_cases heq : nm.ownName h = list
  · obtain rfl : c = 0 := hself heq
    rw [if_pos heq] at hnames hnext ⊢
    rw [List.range'_zero, List.map_nil, List.append_nil] at hnames
    constructor
    · rw [Stock.entry, elementNames_add, elementNames_entryObject, if_pos heq, hnames, heq]
      rfl
    · rw [Stock.entry]
      exact hnext.trans (by rw [heq])
  · rw [if_neg heq] at hnames hnext ⊢
    rw [Nat.zero_add]
    constructor
    · rw [Stock.entry, elementNames_add, elementNames_entryObject, if_neg heq, List.append_nil]
      exact hnames
    · exact hnext

mutual

/-- the objects for the data of a node -/
theorem draws_fillNode : ∀ (n : Node),
    (∀ x ∈ n.all, ∀ y ∈ Node.allIn x.children, nm.ownName y.head ≠ nm.ownName x.head) →
    ∀ (data : List DataNode) (owner : Enclosing) (k : Stock),
    Draws list (entriesAt nm list data n) k (Stock.fillNode nm data (some owner) n k)
  | ⟨head, kind, children⟩, hn, data, owner, k => by
    rw [Node.all, List.forall_mem_cons] at hn
    have hbelow : ∀ ds e k, Draws list (entriesAmong nm list ds children) k (Stock.fill nm ds (some e) children k) :=
      fun ds e k => draws_fill children hn.2 ds e k
    cases kind with
    | container =>
      simp only [Stock.fillNode, entriesAt]
      cases findChild? DataNode.containerChildren? head.name data with
      | none => exact Draws.refl k
      | some ds => exact hbelow ds _ k
    | list keys =>
      simp only [Stock.fillNode, entriesAt]
      cases findChild? DataNode.listEntries? head.name data with
      | none => exact Draws.refl k
      | some entries =>
        apply Draws.foldl
        intro ds _ k
        apply draws_entry owner _ (hbelow ds)
        intro heq
        exact entriesAmong_eq_zero children (fun y hy => heq ▸ hn.1 y hy) ds
    | leaf | leafList | choice | case | typedef | identity | other =>
      simp only [Stock.fillNode, entriesAt]
      exact Draws.refl k

/-- the objects for the data of some nodes -/
theorem draws_fill : ∀ (ns : List Node),
    (∀ x ∈ Node.allIn ns, ∀ y ∈ Node.allIn x.children, nm.ownName y.head ≠ nm.ownName x.head) →
    ∀ (data : List DataNode) (owner : Enclosing) (k : Stock),
    Draws list (entriesAmong nm list data ns) k (Stock.fill nm data (some owner) ns k)
  | [], _, data, owner, k => by
    rw [entriesAmong, Stock.fill]
    exact Draws.refl k
  | n :: ns, hns, data, owner, k => by
    rw [Node.allIn, List.forall_mem_append] at hns
    rw [entriesAmong, Stock.fill]
    exact (draws_fillNode n hns.1 data owner k).trans (draws_fill ns hns.2 data owner _)

end

/-- the objects for the data of a container at the top -/
theorem draws_top (hr : tree.Resolved) {n : Node} (hn : n ∈ tree.statements) (hk : n.kind = .container)
    (data : List DataNode) (k : Stock) : Draws list (entriesAt nm list data n) k (Stock.top nm data k n) := by
  have hapart : ∀ x ∈ Node.allIn n.children, ∀ y ∈ Node.allIn x.children, nm.ownName y.head ≠ nm.ownName x.head := by
    intro x hx y hy
    have hxn : x ∈ n.all := by
      rw [Node.all_eq]
      exact List.mem_cons_of_mem _ hx
    apply ownName_ne_of_below hr nm _ hy
    rw [Tree.nodes_eq]
    exact Node.mem_allIn.2 ⟨n, hn, hxn⟩
  obtain ⟨head, kind, children⟩ := n
  obtain rfl : kind = .container := hk
  simp only [Stock.top, entriesAt]
  cases findChild? DataNode.containerChildren? head.name data with
  | none => exact Draws.refl k
  | some ds => exact (draws_fill children hapart ds _ k).trans (draws_topObject _ head _)

/-! ## Whole translations -/

/-- whether a node is a container -/
def Node.isContainer (n : Node) : Bool :=
  match n.kind with
  | .container => true
  | _ => false

theorem Node.isContainer_iff {n : Node} : Node.isContainer n = true ↔ n.kind = .container := by
  unfold Node.isContainer
  cases n.kind <;> simp

/-- whether a statement is a container, and no container before it has its name -/
def isFirst (met : List Node) (n : Node) : Bool :=
  Node.isContainer n && met.all fun x => !(Node.isContainer x && x.head.name == n.head.name)

theorem isFirst_iff {met : List Node} {n : Node} :
    isFirst met n = true ↔ n.kind = .container ∧ ∀ x ∈ met, x.kind = .container → x.head.name ≠ n.head.name := by
  simp [isFirst, Node.isContainer_iff, imp_iff_not_or, ← Bool.not_eq_true]

/-- the containers among some statements; of those of one name only the first, as only the first gets an object -/
def firstContainers (met : List Node) : List Node → List Node
  | [] => []
  | n :: ns => (if isFirst met n then [n] else []) ++ firstContainers (met ++ [n]) ns

theorem firstContainers_concat (met ns : List Node) (n : Node) :
    firstContainers met (ns ++ [n]) = firstContainers met ns ++ if isFirst (met ++ ns) n then [n] else [] := by
  induction ns generalizing met with
  | nil => simp [firstContainers]
  | cons m ns ih => simp [firstContainers, ih]

/-- **The number of entries of a list** that become objects: those below the containers at the top, over all parents -/
def entryCount (nm : Namer) (list : SymbolicName) (data : List DataNode) (statements : List Node) : Nat :=
  ((firstContainers [] statements).map (entriesAt nm list data)).sum

theorem entryCount_concat (nm : Namer) (list : SymbolicName) (data : List DataNode) (ns : List Node) (n : Node) :
    entryCount nm list data (ns ++ [n]) =
      entryCount nm list data ns + if isFirst ns n then entriesAt nm list data n else 0 := by
  rw [entryCount, entryCount, firstContainers_concat, List.map_append, List.sum_append, List.nil_append]
  split <;> simp

/-- a state in which some statements have been translated, and the elements of every list are those counted in the data -/
structure Numbered (tree : Tree) (data : List DataNode) (met : List Node) (p : Progress) : Prop where
  sound : Sound tree [] [] p
  recorded : Recorded (· ∈ Node.allIn met) p
  asked : ∀ x ∈ met, x.kind = .container → ∃ s, p.Asked .container (ownerOf x.head) s
  drawn : ∀ nm, p.namer.Grows nm → ∀ list, Draws list (entryCount nm list data met) .empty p.stock

namespace Numbered

variable {met : List Node} {n : Node}

theorem note (h : Numbered tree data met p) (e : Event) :
    Holds (note e) p (fun _ t => Numbered tree data met t) fun _ => True := by
  refine Holds.mono ((h.sound.keeps_note e).and (h.recorded.follows_note e)) (fun _ t ht => ?_) fun _ _ => trivial
  obtain ⟨⟨hsound, l, -⟩, hrecorded, -, hstock⟩ := ht
  refine ⟨hsound, hrecorded, fun x hx hk => (h.asked x hx hk).imp fun _ ha => ha.mono l, fun nm hnm list => ?_⟩
  rw [hstock nm hnm]
  exact h.drawn nm (l.namer.trans hnm) list

/-- a container whose type is registered is not the first one of its name, and the other way round -/
theorem isRegistered_iff (h : Numbered tree data met p) (hr : tree.Resolved) (hmet : ∀ x ∈ met, x ∈ tree.statements)
    (hn : n ∈ tree.statements) (hk : n.kind = .container) {nm : Namer} (hnm : p.namer.Grows nm)
    (hrepeated : p.registry.isRegistered .objectType (nm.typeName .container n.head) = true →
      Repeated (· ∈ Node.allIn met) n) :
    p.registry.isRegistered .objectType (nm.typeName .container n.head) = true ↔ isFirst met n = false := by
  rw [Bool.eq_false_iff, ne_eq, isFirst_iff]
  constructor
  · intro hknown hfirst
    obtain ⟨x, hx, hxk, hname⟩ := name_of_repeated hr hmet hn (hrepeated hknown)
    exact hfirst.2 x hx hxk hname
  · intro hmany
    obtain ⟨x, hx, hxk, hname⟩ : ∃ x ∈ met, x.kind = .container ∧ x.head.name = n.head.name := by
      by_contra hnone
      exact hmany ⟨hk, fun x hx hxk hname => hnone ⟨x, hx, hxk, hname⟩⟩
    obtain ⟨s, hasked⟩ := h.asked x hx hxk
    have howner : ownerOf x.head = ownerOf n.head := by
      rw [ownerOf, ownerOf, hname, (path_of_statement hr (hmet x hx)).2, (path_of_statement hr hn).2, Node.label,
        Node.label, hname]
    have hspelled : s = nm.symbol (ownerOf x.head) TypeRole.container.text := (Namer.Gave.mono hasked.named hnm).spelled
    rw [Namer.typeName, ← howner, ← hspelled]
    exact hasked.registered

/-- the elements that one more statement makes -/
theorem draws_translateStatement (h : Numbered tree data met p) (hr : tree.Resolved)
    (hmet : ∀ x ∈ met, x ∈ tree.statements) (hn : n ∈ tree.statements) (name : String) :
    Holds (Translate.translateStatement tree name data n) p (fun _ t => ∀ nm, t.namer.Grows nm → ∀ list,
      Draws list (if isFirst met n then entriesAt nm list data n else 0) p.stock t.stock) fun _ => True := by
  have hnodes := mem_nodes_of_met hmet hn
  by_cases hk : n.kind = .container
  · have hcontainer : Follows (· ∈ Node.allIn met ++ n.all) p (Translate.translateStatement tree name data n)
        fun nm _ t => if p.registry.isRegistered .objectType (nm.typeName .container n.head) = true then
          Repeated (· ∈ Node.allIn met) n ∧ t.stock = p.stock else t.stock = Stock.top nm data p.stock n := by
      unfold Translate.translateStatement
      rw [hk]
      exact h.recorded.follows_translateContainer hr hnodes (fun x hx => List.mem_append_left _ hx)
        (fun x hx => List.mem_append_right _ hx) hk data
    refine Holds.imp hcontainer fun _ t ⟨_, g, hstock⟩ nm hnm list => ?_
    have hstock := hstock nm hnm
    dsimp only at hstock
    have hknown := h.isRegistered_iff hr hmet hn hk (g.trans hnm) fun hregistered => by
      rw [if_pos hregistered] at hstock
      exact hstock.1
    split at hstock
    · rename_i hregistered
      rw [hknown.1 hregistered, hstock.2]
      exact Draws.refl p.stock
    · rename_i hnew
      have hfirst : isFirst met n = true := by
        rw [← Bool.not_eq_false]
        exact fun hf => hnew (hknown.2 hf)
      rw [if_pos hfirst, hstock]
      exact draws_top hr hn hk data p.stock
  · have hother : isFirst met n = false := by
      rw [Bool.eq_false_iff, ne_eq, isFirst_iff]
      exact fun hf => hk hf.1
    refine Holds.imp (h.recorded.follows_next hr hnodes name data) fun _ t ⟨_, _, hstock⟩ nm hnm list => ?_
    have hsame : t.stock = p.stock := by
      rcases hstock nm hnm with htop | ⟨-, hsame⟩
      · rw [htop, Stock.top]
        split
        · exact absurd ‹_› hk
        · rfl
      · exact hsame
    rw [hother, hsame]
    exact Draws.refl p.stock

/-- one more statement -/
theorem translateStatement (hr : tree.Resolved) (hmet : ∀ x ∈ met, x ∈ tree.statements) (h : Numbered tree data met p)
    {m : Module} (hm : m ∈ tree.modules) (hn : n ∈ m.statements) :
    Holds (Translate.translateStatement tree m.name data n) p (fun _ t => Numbered tree data (met ++ [n]) t)
      fun _ => True := by
  have htop : n ∈ tree.statements := List.mem_flatMap.2 ⟨m, hm, hn⟩
  have hkeeps := h.sound.keeps_translateStatement hr hm hn data
  have hfollows := h.recorded.follows_next hr (mem_nodes_of_met hmet htop) m.name data
  have hdraws := h.draws_translateStatement hr hmet htop m.name
  refine ((hkeeps.and hfollows).and hdraws).mono (fun _ t ht => ?_) fun _ _ => trivial
  obtain ⟨⟨⟨hsound, l, hcovered⟩, hrecorded, -⟩, hdraws⟩ := ht
  refine ⟨hsound, hrecorded, ?_, fun nm hnm list => ?_⟩
  · intro x hx hk
    rcases List.mem_append.1 hx with hx | hx
    · exact (h.asked x hx hk).imp fun _ ha => ha.mono l
    · obtain rfl := List.mem_singleton.1 hx
      have hc := hcovered.covered
      rw [Covered, hk] at hc
      exact hc
  · rw [entryCount_concat]
    exact (h.drawn nm (l.namer.trans hnm) list).trans (hdraws nm hnm list)

end Numbered

/-- **The elements of a list are numbered from zero, without a gap and in order.** If a translation answers, then for every
name of a list the objects of its element type are, in the order of the design, its elements with the numbers from zero to the
number of its entries in the data, which are counted over all parents, in nested lists as well. -/
theorem run_numbered {doc : Document} (hresolve : doc.resolve = .ok tree) {s : Settings}
    (h : run s tree data = (.ok (), p)) (list : SymbolicName) :
    elementNames list p.document.definitions.toList =
      (List.range (entryCount p.namer list (if s.materialize then data else []) tree.statements)).map (elementName list) := by
  have hr := Document.resolve_resolved hresolve
  have hstart : Numbered tree (if s.materialize then data else []) [] (.start (.new s.target (designNamespaces s))) :=
    ⟨sound_start tree _ _, recorded_start _ _, fun x hx => absurd hx List.not_mem_nil, fun nm _ list => Draws.refl _⟩
  have htree := holds_translateTree (R := Numbered tree (if s.materialize then data else [])) (fun _ _ e hmet => hmet.note e)
    (fun _ _ hmet hnumbered m hm n hn => hnumbered.translateStatement hr hmet hm hn) hstart
  have hdrawn := (Holds.ok htree h).drawn p.namer (Namer.Grows.refl _) list
  have hnext : Stock.empty.next list = 0 := rfl
  have hnames := hdrawn.names
  rw [hnext] at hnames
  rw [← elementNames_ofKind, List.range_eq_range']
  exact hnames

/-- a list in a list -/
def nestedSchema : Document :=
  ⟨[⟨"m", "u", "m", none, [.named "c" none .container [.named "o" none (.list []) [.named "i" none (.list []) []]]]⟩]⟩

/-- the tree of the nested schema -/
def nestedTree : Tree :=
  let node := fun (path : List String) (name : String) (kind : NodeKind) (children : List Node) =>
    Node.mk ⟨⟨"u", name⟩, path ++ [name], none⟩ kind children
  ⟨[⟨"m", "u", "m", [node [] "c" .container [node ["c"] "o" (.list []) [node ["c", "o"] "i" (.list []) []]]], none⟩]⟩

/-- two entries of the outer list, with an entry of the inner list in each -/
def nestedData : List DataNode :=
  [.container ⟨"u", "c"⟩ [.list ⟨"u", "o"⟩ [[.list ⟨"u", "i"⟩ [[]]], [.list ⟨"u", "i"⟩ [[]]]]]]

/-- the inner list counts on in the second entry of the outer one, and its elements stand before those they are in -/
theorem nestedSchema_numbered : ∃ p, nestedSchema.resolve = .ok nestedTree ∧
    run (.default 0) nestedTree nestedData = (.ok (), p) ∧
    (p.document.ofKind .object).map (·.name.name) = ["ns0__c___o___iElementInstance0", "ns0__c___oElementInstance0",
      "ns0__c___o___iElementInstance1", "ns0__c___oElementInstance1", "ns0__cContainerInstance"] ∧
    (elementNames ⟨(Settings.default 0).target, "ns0__c___o___i"⟩ p.document.definitions.toList).length = 2 := by
  have hresolve : nestedSchema.resolve = .ok nestedTree := rfl
  obtain ⟨p, hrun, htest⟩ := answer_of_test (run (.default 0) nestedTree nestedData)
    (fun p => (p.document.ofKind .object).map (·.name.name) == ["ns0__c___o___iElementInstance0",
        "ns0__c___oElementInstance0", "ns0__c___o___iElementInstance1", "ns0__c___oElementInstance1",
        "ns0__cContainerInstance"] &&
      entryCount p.namer ⟨(Settings.default 0).target, "ns0__c___o___i"⟩ nestedData nestedTree.statements == 2)
    (by decide +kernel)
  rw [Bool.and_eq_true, beq_iff_eq, beq_iff_eq] at htest
  refine ⟨p, hresolve, hrun, htest.1, ?_⟩
  have hmaterialize : (Settings.default 0).materialize = true := rfl
  rw [run_numbered hresolve hrun, if_pos hmaterialize, List.length_map, List.length_range]
  exact htest.2

end YangDesign.Translate
