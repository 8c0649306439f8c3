/-
The references from the elements of lists to the members they belong to.

An element of a list is made while the members of an object are made, and refers to the object by name before the object
exists: the name is that of the object, followed by the names of the members on the way down. `WayDown ms names m` is such a way,
and `Below nm root ms d` says that `d` is an element of a list which refers to the end of a way through the members `ms` of an
object named `root`.

`Grown nm fresh k k'`: from the stock `k` to `k'` objects are added only, and each new one is as `fresh` says or lies below an
object of `k'`. While members are filled, elements lie below members that no object has yet (`grown_fillNode`); when the object
with these members is added, they lie below it (`Grown.close`). In a whole translation only the objects of containers at the top
are left (`grown_top`), and `Hung` goes from statement to statement.
-/
import YangDesign.Proofs.Translate.Numbering

namespace YangDesign.Translate

open Design Instance Schema

variable {tree : Tree} {p q : Progress} {data : List DataNode} {nm : Namer}

/-! ## Ways through members -/

/-- some names lead down to a member, from one of some members on -/
inductive WayDown : List Member → List String → Member → Prop where
  | here {ms : List Member} {m : Member} (hm : m ∈ ms) : WayDown ms [m.labels.symbolic.name] m
  | down {ms : List Member} {c m : Member} {names : List String} (hc : c ∈ ms) (h : WayDown c.children names m) :
    WayDown ms (c.labels.symbolic.name :: names) m

theorem WayDown.mono {ms ms' : List Member} {names : List String} {m : Member} (h : WayDown ms names m) (hms : ms ⊆ ms') :
    WayDown ms' names m := by
  cases h with
  | here hm => exact .here (hms hm)
  | down hc h => exact .down (hms hc) h

/-- the name of the end of a way from an object -/
def wayName (nm : Namer) (root : String) (names : List String) : SymbolicName :=
  ⟨nm.target, "_".intercalate (root :: names)⟩

/-- the name for an object in an object is the start of the way through it -/
theorem wayName_member (nm : Namer) (owner : Enclosing) (name : SymbolicName) (browse : String) (names : List String) :
    wayName nm (owner.member name browse).name.name names = wayName nm owner.name.name (name.name :: names) := by
  cases names with
  | nil => rfl
  | cons x xs => simp [wayName, Enclosing.member, String.intercalate_cons_cons, String.append_assoc]

/-- a member is that of a list: an object with the name and the type of the list, and nothing below it -/
def IsListMember (nm : Namer) (n : Node) (m : Member) : Prop :=
  ∃ labels : Labels, labels.symbolic = nm.ownName n.head ∧ m = .objectNode labels (some (nm.typeName .list n.head)) [] []

/-- a definition is an element of a list, with one reference, which is inverse and ends at a name -/
def IsElement (nm : Namer) (n : Node) (target : SymbolicName) (d : Definition) : Prop :=
  ∃ members, d.content = .object (some (nm.typeName .element n.head)) [⟨nm.typeName .reference n.head, target, true⟩] members

/-- a definition is an element of a list of the tree, and refers to a member of an object -/
def Below (tree : Tree) (nm : Namer) (root : String) (ms : List Member) (d : Definition) : Prop :=
  ∃ n ∈ tree.nodes, ∃ keys, n.kind = .list keys ∧ ∃ names m, WayDown ms names m ∧ IsListMember nm n m ∧
    IsElement nm n (wayName nm root names) d

theorem Below.mono {root : String} {ms ms' : List Member} {d : Definition} (h : Below tree nm root ms d) (hms : ms ⊆ ms') :
    Below tree nm root ms' d := by
  obtain ⟨n, hn, keys, hk, names, m, hway, hm⟩ := h
  exact ⟨n, hn, keys, hk, names, m, hway.mono hms, hm⟩

/-- what lies below an object in an object lies below the object -/
theorem Below.member {owner : Enclosing} {c : Member} {browse : String} {d : Definition}
    (h : Below tree nm (owner.member c.labels.symbolic browse).name.name c.children d) :
    Below tree nm owner.name.name [c] d := by
  obtain ⟨n, hn, keys, hk, names, m, hway, hm, hd⟩ := h
  rw [wayName_member] at hd
  exact ⟨n, hn, keys, hk, _, m, .down (List.mem_singleton_self c) hway, hm, hd⟩

/-! ## Growing stocks -/

/-- objects are added only, and each is as `fresh` says or lies below an object -/
structure Grown (tree : Tree) (nm : Namer) (fresh : Definition → Prop) (k k' : Stock) : Prop where
  kept : k.objects ⊆ k'.objects
  added : ∀ d ∈ k'.objects, d ∈ k.objects ∨ fresh d ∨ ∃ o ∈ k'.objects, Below tree nm o.name.name o.children d

namespace Grown

variable {fresh fresh' : Definition → Prop} {k k' k'' : Stock}

theorem refl (k : Stock) : Grown tree nm fresh k k :=
  ⟨fun _ hd => hd, fun _ hd => Or.inl hd⟩

theorem trans (h : Grown tree nm fresh k k') (h' : Grown tree nm fresh k' k'') : Grown tree nm fresh k k'' := by
  refine ⟨fun d hd => h'.kept (h.kept hd), fun d hd => ?_⟩
  rcases h'.added d hd with hd | hd
  · rcases h.added d hd with hd | hd | ⟨o, ho, hd⟩
    · exact Or.inl hd
    · exact Or.inr (Or.inl hd)
    · exact Or.inr (Or.inr ⟨o, h'.kept ho, hd⟩)
  · exact Or.inr hd

theorem imp (h : Grown tree nm fresh k k') (hd : ∀ d, fresh d → fresh' d) : Grown tree nm fresh' k k' :=
  ⟨h.kept, fun d hmem => (h.added d hmem).imp_right fun hnew => hnew.imp_left (hd d)⟩

/-- counting adds no object -/
theorem of_count {list : SymbolicName} (h : Grown tree nm fresh (k.count list) k') : Grown tree nm fresh k k' :=
  ⟨h.kept, h.added⟩

theorem foldl {α : Type} {f : Stock → α → Stock} (h : ∀ k x, Grown tree nm fresh k (f k x)) (xs : List α) (k : Stock) :
    Grown tree nm fresh k (xs.foldl f k) := by
  induction xs generalizing k with
  | nil => exact refl k
  | cons x xs ih => exact (h k x).trans (ih (f k x))

/-- **An object is added after what lies below it.** -/
theorem close {o : Definition} (h : Grown tree nm (Below tree nm o.name.name o.children) k k') (ho : fresh o) :
    Grown tree nm fresh k (k'.add o) := by
  have hlast : o ∈ (k'.add o).objects := List.mem_append_right _ (List.mem_singleton_self o)
  have hsame : k'.objects ⊆ (k'.add o).objects := List.subset_append_left _ _
  refine ⟨fun d hd => hsame (h.kept hd), fun d hd => ?_⟩
  rcases List.mem_append.1 hd with hd | hd
  · rcases h.added d hd with hd | hd | ⟨o', ho', hd⟩
    · exact Or.inl hd
    · exact Or.inr (Or.inr ⟨o, hlast, hd⟩)
    · exact Or.inr (Or.inr ⟨o', hsame ho', hd⟩)
  · obtain rfl := List.mem_singleton.1 hd
    exact Or.inr (Or.inl ho)

end Grown

/-! ## Objects for data -/

/-- the object for an entry of a list refers to the member that the list has in the object around it -/
theorem below_entryObject {h : Head} {keys : List String} {children : List Node} (hn : ⟨h, .list keys, children⟩ ∈ tree.nodes)
    (data : List DataNode) (owner : Enclosing) (i : Nat) (ms : List Member) :
    Below tree nm owner.name.name (memberFor nm data (some owner) ⟨h, .list keys, children⟩).toList
      (entryObject nm h owner i ms) := by
  obtain ⟨labels, hname, hmember⟩ : ∃ labels : Labels, labels.symbolic = nm.ownName h ∧
      memberFor nm data (some owner) ⟨h, .list keys, children⟩ =
        some (.objectNode labels (some (nm.typeName .list h)) [] []) := by
    simp only [memberFor]
    exact ⟨_, rfl, rfl⟩
  rw [hmember]
  refine ⟨_, hn, keys, rfl, _, _, .here (List.mem_singleton_self _), ⟨labels, hname, rfl⟩, ms, ?_⟩
  rw [Member.labels, hname]
  rfl

mutual

/-- the objects for the data of a node lie below the member for the node -/
theorem grown_fillNode : ∀ (n : Node), n.all ⊆ tree.nodes → ∀ (data : List DataNode) (owner : Enclosing) (k : Stock),
    Grown tree nm (Below tree nm owner.name.name (memberFor nm data (some owner) n).toList) k
      (Stock.fillNode nm data (some owner) n k)
  | ⟨head, kind, children⟩, hn, data, owner, k => by
    rw [Node.all, List.cons_subset] at hn
    cases kind with
    | container =>
      simp only [Stock.fillNode, memberFor]
      cases findChild? DataNode.containerChildren? head.name data with
      | none => exact Grown.refl k
      | some ds => exact (grown_fill children hn.2 ds _ k).imp fun d hd => hd.member
    | list keys =>
      simp only [Stock.fillNode]
      cases findChild? DataNode.listEntries? head.name data with
      | none => exact Grown.refl k
      | some entries =>
        refine Grown.foldl (fun k ds => ?_) entries k
        have hinside := grown_fill children hn.2 ds (entryEnclosing nm head (k.next (nm.ownName head)))
          (k.count (nm.ownName head))
        exact hinside.of_count.close (below_entryObject hn.1 data owner _ _)
    | leaf | leafList | choice | case | typedef | identity | other =>
      simp only [Stock.fillNode]
      exact Grown.refl k

/-- the objects for the data of some nodes lie below the members for the nodes -/
theorem grown_fill : ∀ (ns : List Node), Node.allIn ns ⊆ tree.nodes → ∀ (data : List DataNode) (owner : Enclosing) (k : Stock),
    Grown tree nm (Below tree nm owner.name.name (membersFor nm data (some owner) ns)) k
      (Stock.fill nm data (some owner) ns k)
  | [], _, data, owner, k => by
    rw [Stock.fill]
    exact Grown.refl k
  | n :: ns, hns, data, owner, k => by
    rw [Node.allIn, List.append_subset] at hns
    rw [Stock.fill, membersFor]
    have hfirst := grown_fillNode n hns.1 data owner k
    have hrest := grown_fill ns hns.2 data owner (Stock.fillNode nm data (some owner) n k)
    exact (hfirst.imp fun d hd => hd.mono (List.subset_append_left _ _)).trans
      (hrest.imp fun d hd => hd.mono (List.subset_append_right _ _))

end

/-- a definition is the object of a container -/
def IsContainer (nm : Namer) (tree : Tree) (d : Definition) : Prop :=
  ∃ n ∈ tree.statements, n.kind = .container ∧ ∃ refs members,
    d.content = .object (some (nm.typeName .container n.head)) refs members

/-- the objects for the data of a statement at the top: one for a container, and the others below it -/
theorem grown_top {n : Node} (hn : n ∈ tree.statements) (data : List DataNode) (k : Stock) :
    Grown tree nm (IsContainer nm tree) k (Stock.top nm data k n) := by
  have hbelow : Node.allIn n.children ⊆ tree.nodes := by
    intro x hx
    rw [Tree.nodes_eq]
    refine Node.mem_allIn.2 ⟨n, hn, ?_⟩
    rw [Node.all_eq]
    exact List.mem_cons_of_mem _ hx
  unfold Stock.top
  split
  · rename_i hk hds
    exact (grown_fill n.children hbelow _ (topEnclosing nm n.head) k).close ⟨n, hn, hk, _, _, rfl⟩
  · exact Grown.refl k

/-! ## Whole translations -/

/-- a state in which some statements have been translated, and every object is that of a container or lies below an object -/
structure Hung (tree : Tree) (met : List Node) (p : Progress) : Prop where
  recorded : Recorded (· ∈ Node.allIn met) p
  grown : ∀ nm, p.namer.Grows nm → Grown tree nm (IsContainer nm tree) .empty p.stock

namespace Hung

variable {met : List Node}

theorem note (h : Hung tree met p) (e : Event) : Holds (note e) p (fun _ t => Hung tree met t) fun _ => True := by
  refine Holds.imp (h.recorded.follows_note e) fun _ t ⟨hrecorded, g, hstock⟩ => ⟨hrecorded, fun nm hnm => ?_⟩
  rw [hstock nm hnm]
  exact h.grown nm (g.trans hnm)

theorem translateStatement (hr : tree.Resolved) (hmet : ∀ x ∈ met, x ∈ tree.statements) (h : Hung tree met p) {n : Node}
    (hn : n ∈ tree.statements) (name : String) (data : List DataNode) :
    Holds (Translate.translateStatement tree name data n) p (fun _ t => Hung tree (met ++ [n]) t) fun _ => True := by
  refine Holds.imp (h.recorded.follows_next hr (mem_nodes_of_met hmet hn) name data)
    fun _ t ⟨hrecorded, g, hstock⟩ => ⟨hrecorded, fun nm hnm => ?_⟩
  have hbefore := h.grown nm (g.trans hnm)
  rcases hstock nm hnm with htop | ⟨-, hsame⟩
  · rw [htop]
    exact hbefore.trans (grown_top hn data p.stock)
  · rw [hsame]
    exact hbefore

end Hung

/-- in the end every object is that of a container or lies below an object -/
theorem run_hung (hr : tree.Resolved) {s : Settings} (h : run s tree data = (.ok (), p)) :
    ∀ d ∈ p.document.ofKind .object, IsContainer p.namer tree d ∨
      ∃ o ∈ p.document.ofKind .object, Below tree p.namer o.name.name o.children d := by
  have hstart : Hung tree [] (.start (.new s.target (designNamespaces s))) :=
    ⟨recorded_start _ _, fun nm _ => Grown.refl _⟩
  have htree : Holds (translateTree tree (if s.materialize then data else [])) (.start (.new s.target (designNamespaces s)))
      (fun _ t => Hung tree tree.statements t) fun _ => True :=
    holds_translateTree (fun _ _ e h => h.note e)
      (fun _ _ hmet h m hm n hn => h.translateStatement hr hmet (List.mem_flatMap.2 ⟨m, hm, hn⟩) m.name _) hstart
  have hgrown := (Holds.ok htree h).grown p.namer (Namer.Grows.refl _)
  exact fun d hd => (hgrown.added d hd).resolve_left List.not_mem_nil

/-! ## Elements -/

/-- the type of its elements tells the names of a list in all roles -/
theorem Namer.typeName_eq_of_element {nm : Namer} {x y : Head} (h : nm.typeName .element x = nm.typeName .element y) :
    nm.ownName x = nm.ownName y ∧ ∀ r, nm.typeName r x = nm.typeName r y := by
  rw [nm.typeName_element, nm.typeName_element] at h
  have hown : nm.ownName x = nm.ownName y := elementType_injective h
  refine ⟨hown, fun r => ?_⟩
  have hspelling : nm.spelling (ownerOf x) "" = nm.spelling (ownerOf y) "" := congrArg SymbolicName.name hown
  have hrole : ∀ z : Head, nm.spelling (ownerOf z) r.text = nm.spelling (ownerOf z) "" ++ r.text :=
    fun z => nm.spelling_eq (ownerOf z) (.type r)
  simp only [typeName, symbol, hrole, hspelling]

theorem mem_ofKind_object {doc : ModelDocument} {d : Definition} :
    d ∈ doc.ofKind .object ↔ d ∈ doc.definitions ∧ d.kind = .object := by
  simp [ModelDocument.ofKind]

/-- **Elements of lists point back to members that exist.** If a translation answers, every object of its design is that of a
container at the top or an element of a list. An object with the type of the elements of a list has one reference, which is
inverse and of the reference type of the list. It ends at the name of an object of the design followed by the names of members
on a way down from that object, and the way ends at a member with the name and the type of the list. -/
theorem run_elements_attached {doc : Document} (hresolve : doc.resolve = .ok tree) {s : Settings}
    (h : run s tree data = (.ok (), p)) :
    (∀ d ∈ p.document.ofKind .object, IsContainer p.namer tree d ∨
      ∃ n ∈ tree.nodes, ∃ keys target, n.kind = .list keys ∧ IsElement p.namer n target d) ∧
    ∀ n ∈ tree.nodes, ∀ keys, n.kind = .list keys → ∀ d ∈ p.document.definitions, ∀ refs members,
      d.content = .object (some (p.namer.typeName .element n.head)) refs members →
      ∃ o ∈ p.document.ofKind .object, ∃ names m, WayDown o.children names m ∧ IsListMember p.namer n m ∧
        refs = [⟨p.namer.typeName .reference n.head, ⟨s.target, "_".intercalate (o.name.name :: names)⟩, true⟩] := by
  have hr := Document.resolve_resolved hresolve
  have hung := run_hung hr h
  constructor
  · intro d hd
    refine (hung d hd).imp_right ?_
    rintro ⟨o, -, n, hn, keys, hk, names, m, -, -, helement⟩
    exact ⟨n, hn, keys, _, hk, helement⟩
  · intro n _ keys _ d hd refs members hcontent
    have hobject : d ∈ p.document.ofKind .object := mem_ofKind_object.2 ⟨hd, by rw [Definition.kind, hcontent]; rfl⟩
    rcases hung d hobject with ⟨x, -, -, refs', members', hother⟩ |
      ⟨o, ho, x, -, keys', -, names, m, hway, ⟨labels, hname, rfl⟩, members', hother⟩
    · rw [hcontent] at hother
      injection hother with htype
      rw [p.namer.typeName_element] at htype
      exact absurd (Option.some.inj htype).symm (p.namer.typeName_container_ne x.head _)
    · rw [hcontent] at hother
      injection hother with helement hrefs
      obtain ⟨hown, hroles⟩ := Namer.typeName_eq_of_element (Option.some.inj helement)
      refine ⟨o, ho, names, _, hway, ⟨labels, hname.trans hown.symm, by rw [hroles]⟩, ?_⟩
      rw [hrefs, hroles, wayName, run_target hr h]

/-- a list in a container in a container -/
def innerList : Node :=
  ⟨⟨⟨"u", "o"⟩, ["c", "d", "o"], none⟩, .list [], []⟩

/-- the tree of the list in two containers -/
def innerTree : Tree :=
  ⟨[⟨"m", "u", "m",
    [⟨⟨⟨"u", "c"⟩, ["c"], none⟩, .container, [⟨⟨⟨"u", "d"⟩, ["c", "d"], none⟩, .container, [innerList]⟩]⟩], none⟩]⟩

/-- the schema of the list in two containers -/
def innerSchema : Document :=
  ⟨[⟨"m", "u", "m", none, [.named "c" none .container [.named "d" none .container [.named "o" none (.list []) []]]]⟩]⟩

/-- one entry of the list in two containers -/
def innerData : List DataNode :=
  [.container ⟨"u", "c"⟩ [.container ⟨"u", "d"⟩ [.list ⟨"u", "o"⟩ [[]]]]]

/-- the names that the references of an object of a type end at -/
def endsOf (type : SymbolicName) (d : Definition) : Option (List String) :=
  match d.content with
  | .object (some t) refs _ => if t = type then some (refs.map (·.target.name)) else none
  | _ => none

/-- the way of the element goes through the member for the inner container -/
theorem innerSchema_elements_attached : ∃ p, innerSchema.resolve = .ok innerTree ∧
    run (.default 0) innerTree innerData = (.ok (), p) ∧
    ∃ o ∈ p.document.ofKind .object, ∃ names m, WayDown o.children names m ∧
      m.type = some ⟨(Settings.default 0).target, "ns0__c___d___oListType"⟩ ∧
      "_".intercalate (o.name.name :: names) = "ns0__cContainerInstance_ns0__c___d_ns0__c___d___o" := by
  have hresolve : innerSchema.resolve = .ok innerTree := rfl
  obtain ⟨p, hrun, htest⟩ := answer_of_test (run (.default 0) innerTree innerData)
    (fun p => (p.document.ofKind .object).filterMap (endsOf (p.namer.typeName .element innerList.head)) ==
        [["ns0__cContainerInstance_ns0__c___d_ns0__c___d___o"]] &&
      p.namer.typeName .list innerList.head == ⟨(Settings.default 0).target, "ns0__c___d___oListType"⟩)
    (by decide +kernel)
  rw [Bool.and_eq_true, beq_iff_eq, beq_iff_eq] at htest
  obtain ⟨hends, hlist⟩ := htest
  obtain ⟨d, hd, hend⟩ := List.mem_filterMap.1 (hends ▸ List.mem_singleton_self _)
  unfold endsOf at hend
  split at hend
  case h_2 => cases hend
  case h_1 t refs members hcontent =>
    obtain ⟨rfl, hrefs⟩ := Option.ite_none_right_eq_some.1 hend
    have hnode : innerList ∈ innerTree.nodes := by
      simp [innerTree, Tree.nodes_eq, Tree.statements, Node.all, Node.allIn, innerList.mem_all_self]
    obtain ⟨o, ho, names, m, hway, ⟨labels, -, rfl⟩, rfl⟩ := (run_elements_attached hresolve hrun).2 innerList hnode [] rfl d
      (mem_ofKind_object.1 hd).1 refs members hcontent
    refine ⟨p, hresolve, hrun, o, ho, names, _, hway, congrArg some hlist, ?_⟩
    simpa using hrefs

end YangDesign.Translate
