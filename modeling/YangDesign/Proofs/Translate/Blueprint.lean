/-
The definitions that a schema and its data call for, said without a state.

A namer that has numbered the namespaces of a schema has a name for every node in every role. From these names follow the
member that stands for a node (`memberFor`), the types of a node (`typesFor`), and the objects for instance data
(`Stock.fill`, `Stock.top`), whose entries are counted list by list.

`Tracing` shows that a translation makes exactly these. Here stand the facts about them alone: what a member is apart from its
data does not depend on the data (`outline_membersFor`).
-/
import YangDesign.Proofs.Translate.Shapes

namespace YangDesign.Translate

open Design Instance Schema

/-! ## Names -/

namespace Namer

/-- the name of a node that stands for the node itself -/
def ownName (nm : Namer) (h : Head) : SymbolicName :=
  nm.symbol (ownerOf h) ""

/-- the name of the type of a node in a role -/
def typeName (nm : Namer) (r : TypeRole) (h : Head) : SymbolicName :=
  nm.symbol (ownerOf h) r.text

end Namer

/-- the data type that stands for a type -/
def dataTypeFor (nm : Namer) (t : TypeDef) : SymbolicName :=
  match t.kind with
  | .builtIn b => if t.isPrimitive then builtInName (opcName b) else nm.symbol (ownerOfType t) TypeRole.dataType.text
  | .unknown _ => nm.symbol (ownerOfType t) TypeRole.dataType.text

/-- the types of a list -/
def listTypesFor (nm : Namer) (h : Head) : ListTypes :=
  ⟨nm.typeName .list h, nm.typeName .element h, nm.typeName .reference h⟩

/-- the roles of the types of a node of a kind -/
def typeRoles : NodeKind → List TypeRole
  | .container => [.container]
  | .list _ => [.list, .element, .reference]
  | .leaf _ => [.leaf]
  | .leafList _ => [.leafList]
  | .choice => [.choice]
  | .case => [.case]
  | .identity _ => [.identity]
  | _ => []

/-- the kind of the definition of a type in a role -/
def TypeRole.kind : TypeRole → DefinitionKind
  | .dataType => .dataType
  | .leaf | .leafList => .variableType
  | .reference => .referenceType
  | _ => .objectType

/-- whether types in the role hold the members for the children of a node -/
def TypeRole.holdsMembers : TypeRole → Bool
  | .container | .element | .case => true
  | _ => false

/-! ## Members -/

mutual

/-- the member that stands for a node, filled from the data of an object -/
def memberFor (nm : Namer) (data : List DataNode) (owner : Option Enclosing) : Node → Option Member
  | ⟨h, kind, children⟩ =>
    match kind with
    | .container =>
      let labels := plainLabels (nm.ownName h) h.name.localName h.description
      some (.objectNode labels (some (nm.typeName .container h)) []
        (match findChild? DataNode.containerChildren? h.name data, owner with
          | some ds, some owner => membersFor nm ds (some (owner.member labels.symbolic labels.browse)) children
          | _, _ => []))
    | .list keys =>
      let (browse, display) := visibleNames h.name.localName none "" "List"
      some (.objectNode ⟨nm.ownName h, browse, display, listDescription (listTypesFor nm h) keys (describe h.description)⟩
        (some (nm.typeName .list h)) [] [])
    | .leaf (some t) =>
      let names := visibleNames h.name.localName (owner.map (·.browse)) "" ""
      some (.variableNode ⟨nm.ownName h, names.1, names.2, describe h.description⟩ (some (nm.typeName .leaf h)) .scalar
        (some .readWrite) ((findChild? DataNode.leafValue? h.name data).map fun v => ⟨dataTypeFor nm t, v⟩))
    | .leafList (some t) =>
      some (.variableNode (plainLabels (nm.ownName h) h.name.localName h.description) (some (nm.typeName .leafList h)) .array
        none (owner.bind fun _ =>
          (findChild? DataNode.leafListValues? h.name data).map fun vs => ⟨dataTypeFor nm t, .tuple vs⟩))
    | .choice =>
      some (.objectNode (plainLabels (nm.ownName h) h.name.localName h.description) (some (nm.typeName .choice h)) [] [])
    | _ => none

/-- the members that stand for some nodes -/
def membersFor (nm : Namer) (data : List DataNode) (owner : Option Enclosing) : List Node → List Member
  | [] => []
  | n :: ns => (memberFor nm data owner n).toList ++ membersFor nm data owner ns

end

/-- a member apart from its data: the class, the name, the type, and the rank of a variable -/
inductive Outline where
  | variableNode (name : SymbolicName) (type : Option SymbolicName) (rank : ValueRank)
  | objectNode (name : SymbolicName) (type : Option SymbolicName)
  deriving DecidableEq, Repr

/-- the outline of a member -/
def outline : Member → Outline
  | .variableNode l t rank _ _ => .variableNode l.symbolic t rank
  | .objectNode l t _ _ => .objectNode l.symbolic t

/-- the outline of the member that stands for a node -/
def outlineFor (nm : Namer) (n : Node) : Option Outline :=
  match n.kind with
  | .container => some (.objectNode (nm.ownName n.head) (some (nm.typeName .container n.head)))
  | .list _ => some (.objectNode (nm.ownName n.head) (some (nm.typeName .list n.head)))
  | .leaf (some _) => some (.variableNode (nm.ownName n.head) (some (nm.typeName .leaf n.head)) .scalar)
  | .leafList (some _) => some (.variableNode (nm.ownName n.head) (some (nm.typeName .leafList n.head)) .array)
  | .choice => some (.objectNode (nm.ownName n.head) (some (nm.typeName .choice n.head)))
  | _ => none

theorem outline_memberFor (nm : Namer) (data : List DataNode) (owner : Option Enclosing) (n : Node) :
    (memberFor nm data owner n).map outline = outlineFor nm n := by
  obtain ⟨h, kind, children⟩ := n
  cases kind with
  | leaf type | leafList type => cases type <;> simp [memberFor, outlineFor, outline, plainLabels]
  | container | list | choice | case | typedef | identity | other =>
    simp [memberFor, outlineFor, outline, plainLabels]

/-- **Data fills members and changes nothing else about them.** -/
theorem outline_membersFor (nm : Namer) (data : List DataNode) (owner : Option Enclosing) (ns : List Node) :
    (membersFor nm data owner ns).map outline = ns.filterMap (outlineFor nm) := by
  induction ns with
  | nil => simp [membersFor]
  | cons n ns ih =>
    have hn := outline_memberFor nm data owner n
    rw [membersFor, List.map_append, ih]
    cases hm : memberFor nm data owner n with
    | none =>
      rw [hm, Option.map_none] at hn
      simp [← hn]
    | some m =>
      rw [hm, Option.map_some] at hn
      simp [← hn]

/-! ## Types -/

/-- the definition of a variable type -/
def variableTypeFor (nm : Namer) (r : TypeRole) (h : Head) (t : TypeDef) (rank : ValueRank) : Definition :=
  ⟨plainLabels (nm.typeName r h) h.name.localName h.description,
    .variableType (some (builtInName "BaseDataVariableType")) (some (dataTypeFor nm t)) rank⟩

/-- the definition of the references between a list and its elements -/
def referenceTypeFor (nm : Namer) (h : Head) : Definition :=
  let (browse, display) := visibleNames h.name.localName none "Contains" ""
  ⟨⟨nm.typeName .reference h, browse, display, describe h.description⟩, .referenceType (some (builtInName "HasComponent"))⟩

/-- the owner of the choice above a case -/
def choiceOwner (h : Head) : Owner :=
  ⟨h.name.namespaceUri, h.path.dropLast⟩

/-- the types of a node, each with its role; the types of identities derive from each other and are not among them -/
def typesFor (nm : Namer) (n : Node) : List (TypeRole × Definition) :=
  let h := n.head
  let members := membersFor nm [] none n.children
  match n.kind with
  | .container => [(.container, objectTypeFor h (nm.typeName .container h) baseObjectType false members)]
  | .list _ => [
    (.list, objectTypeFor h (nm.typeName .list h) baseObjectType false []),
    (.element, objectTypeFor h (nm.typeName .element h) baseObjectType false members),
    (.reference, referenceTypeFor nm h)]
  | .leaf (some t) => [(.leaf, variableTypeFor nm .leaf h t .scalar)]
  | .leafList (some t) => [(.leafList, variableTypeFor nm .leafList h t .array)]
  | .choice => [(.choice, objectTypeFor h (nm.typeName .choice h) baseObjectType true [])]
  | .case => [(.case, objectTypeFor h (nm.typeName .case h) (nm.symbol (choiceOwner h) TypeRole.choice.text) false members)]
  | _ => []

/-- a type that holds members holds those for the children of its node -/
theorem children_of_mem_typesFor {nm : Namer} {n : Node} {r : TypeRole} {d : Definition} (h : (r, d) ∈ typesFor nm n)
    (hr : r.holdsMembers = true) : ∃ base, d.content = .objectType base false (membersFor nm [] none n.children) := by
  unfold typesFor at h
  dsimp only at h
  split at h <;> simp only [List.mem_cons, List.not_mem_nil, or_false, Prod.mk.injEq] at h
  case h_1 | h_6 => exact ⟨_, by rw [h.2]; rfl⟩
  case h_2 =>
    rcases h with h | h | h
    · rw [h.1] at hr
      cases hr
    · exact ⟨_, by rw [h.2]; rfl⟩
    · rw [h.1] at hr
      cases hr
  case h_3 | h_4 | h_5 =>
    rw [h.1] at hr
    cases hr

/-- the types of a node are in the roles that its kind calls for -/
theorem role_of_mem_typesFor {nm : Namer} {n : Node} {r : TypeRole} {d : Definition} (h : (r, d) ∈ typesFor nm n) :
    r ∈ typeRoles n.kind ∧ r ≠ .identity := by
  unfold typesFor at h
  dsimp only at h
  split at h <;> rename_i hk <;> simp only [List.mem_cons, List.not_mem_nil, or_false, Prod.mk.injEq] at h <;> rw [hk]
  case h_2 => rcases h with ⟨rfl, -⟩ | ⟨rfl, -⟩ | ⟨rfl, -⟩ <;> simp [typeRoles]
  all_goals
    obtain ⟨rfl, -⟩ := h
    simp [typeRoles]

/-- a node has one type in a role -/
theorem eq_of_mem_typesFor {nm : Namer} {n : Node} {r : TypeRole} {d e : Definition} (hd : (r, d) ∈ typesFor nm n)
    (he : (r, e) ∈ typesFor nm n) : d = e := by
  have hroles : ((typesFor nm n).map Prod.fst).Nodup := by
    unfold typesFor
    split <;> simp
  have hpair := List.inj_on_of_nodup_map hroles hd he rfl
  exact (Prod.mk.inj hpair).2

/-! ## Objects -/

/-- objects in order, with the number of entries counted for each list -/
structure Stock where
  objects : List Definition
  counters : Assoc SymbolicName Nat

/-- what a translation has in stock -/
def Progress.stock (p : Progress) : Stock :=
  ⟨p.document.ofKind .object, p.counters⟩

/-- the object whose members an entry of a list fills -/
def entryEnclosing (nm : Namer) (h : Head) (i : Nat) : Enclosing :=
  ⟨nm.symbol (ownerOf h) (Purpose.element i).text, (visibleNames h.name.localName none "" (" " ++ toString i)).1⟩

/-- the object for an entry of a list below an object -/
def entryObject (nm : Namer) (h : Head) (owner : Enclosing) (i : Nat) (members : List Member) : Definition :=
  let (browse, display) := visibleNames h.name.localName none "" (" " ++ toString i)
  ⟨⟨nm.symbol (ownerOf h) (Purpose.element i).text, browse, display, describe h.description⟩,
    .object (some (nm.typeName .element h))
      [⟨nm.typeName .reference h, ⟨(nm.ownName h).namespaceUri, owner.name.name ++ "_" ++ (nm.ownName h).name⟩, true⟩] members⟩

/-- the object whose members the data of a container at the top fills -/
def topEnclosing (nm : Namer) (h : Head) : Enclosing :=
  ⟨nm.symbol (ownerOf h) Purpose.container.text, (visibleNames h.name.localName none "" "").1⟩

/-- the object for a container at the top -/
def topObject (nm : Namer) (h : Head) (members : List Member) : Definition :=
  ⟨plainLabels (nm.symbol (ownerOf h) Purpose.container.text) h.name.localName h.description,
    .object (some (nm.typeName .container h)) [⟨builtInName "Organizes", builtInName "ObjectsFolder", true⟩] members⟩

namespace Stock

/-- no objects -/
def empty : Stock :=
  ⟨[], .empty⟩

/-- the number of the next entry of a list -/
def next (k : Stock) (list : SymbolicName) : Nat :=
  (k.counters.find? list).getD 0

/-- an entry of a list counted -/
def count (k : Stock) (list : SymbolicName) : Stock :=
  { k with counters := k.counters.insert list (k.next list + 1) }

/-- one more object -/
def add (k : Stock) (d : Definition) : Stock :=
  { k with objects := k.objects ++ [d] }

/-- the stock after an entry of a list, where `inside` is what the objects inside it add -/
def entry (nm : Namer) (h : Head) (owner : Enclosing) (members : List DataNode → Enclosing → List Member)
    (inside : List DataNode → Enclosing → Stock → Stock) (k : Stock) (ds : List DataNode) : Stock :=
  let i := k.next (nm.ownName h)
  let e := entryEnclosing nm h i
  (inside ds e (k.count (nm.ownName h))).add (entryObject nm h owner i (members ds e))

mutual

/-- the stock after the data of a node -/
def fillNode (nm : Namer) (data : List DataNode) (owner : Option Enclosing) : Node → Stock → Stock
  | ⟨h, kind, children⟩, k =>
    match kind with
    | .container =>
      match findChild? DataNode.containerChildren? h.name data, owner with
      | some ds, some owner =>
        let labels := plainLabels (nm.ownName h) h.name.localName h.description
        fill nm ds (some (owner.member labels.symbolic labels.browse)) children k
      | _, _ => k
    | .list _ =>
      match findChild? DataNode.listEntries? h.name data, owner with
      | some entries, some owner =>
        entries.foldl (entry nm h owner (fun ds e => membersFor nm ds (some e) children)
          fun ds e k => fill nm ds (some e) children k) k
      | _, _ => k
    | _ => k

/-- the stock after the data of some nodes -/
def fill (nm : Namer) (data : List DataNode) (owner : Option Enclosing) : List Node → Stock → Stock
  | [], k => k
  | n :: ns, k => fill nm data owner ns (fillNode nm data owner n k)

end

/-- the stock after the data of a statement at the top of a module -/
def top (nm : Namer) (data : List DataNode) (k : Stock) (n : Node) : Stock :=
  match n.kind, findChild? DataNode.containerChildren? n.head.name data with
  | .container, some ds =>
    (fill nm ds (some (topEnclosing nm n.head)) n.children k).add
      (topObject nm n.head (membersFor nm ds (some (topEnclosing nm n.head)) n.children))
  | _, _ => k

end Stock

end YangDesign.Translate
