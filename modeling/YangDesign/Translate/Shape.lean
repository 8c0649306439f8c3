/-
The types of containers, lists, leaves, choices and identities, and the members that stand for them in other types.

A container becomes an object type; a list becomes an object type, an object type for its elements and a reference type
between them; a leaf and a leaf-list become variable types; a choice becomes an abstract object type and one object type for
each case. The types of children are registered before the type that refers to them.

Below an object, members are filled from instance data: a leaf gets its value as default, an entry of a list becomes an
object that points back to the list.
-/
import YangDesign.Instance.Tree
import YangDesign.Translate.DataType

namespace YangDesign.Translate

open Design Instance Schema

/-- statements below a container, list or case that carry no structure -/
def ignoredChildren : List String := [
  "config", "status", "if-feature", "uses", "when", "reference", "description", "unique", "augment", "key", "must",
  "presence", "default", "mandatory", "units", "ordered-by", "min-elements", "max-elements", "grouping"]

/-- the owner of the names of a node -/
def ownerOf (h : Head) : Owner :=
  ⟨h.name.namespaceUri, h.path⟩

/-- the object whose members are filled from instance data -/
structure Enclosing where
  name : SymbolicName
  browse : String
  deriving DecidableEq, Repr

/-- the object for a member of an object -/
def Enclosing.member (e : Enclosing) (name : SymbolicName) (browse : String) : Enclosing :=
  ⟨⟨name.namespaceUri, e.name.name ++ "_" ++ name.name⟩, browse⟩

/-! ## Types -/

/-- the object type of an identity, where `base` registers the type of the identity it derives from, if there is one -/
def identityTypeUnder (i : Identity) (base : Translator (Option SymbolicName)) : Translator SymbolicName := do
  let name ← nameFor (ownerOf i.head) ""
  if ← isRegistered .identity name then return name
  if i.bases.length > 1 then unsupported (.multipleBases i.head.name.localName) i.head.path
  register .identity name do
    let baseType ← base
    let d : Definition := ⟨plainLabels name i.head.name.localName i.head.description, .objectType baseType false []⟩
    emit d
    return d

/-- the object type of the first base of an identity, if it has bases -/
def baseIdentityType (tree : Tree) (i : Identity) (translate : Identity → Translator SymbolicName) :
    Translator (Option SymbolicName) :=
  match i.bases with
  | [] => return none
  | q :: _ =>
    match tree.identity? q with
    | none => unsupported (.unknownBase q) i.head.path
    | some b => some <$> translate b

/-- an identity and the identities it derives from; `steps` bounds the bases still to be followed -/
def translateIdentityWithin (tree : Tree) : Nat → Identity → Translator SymbolicName
  | 0, i => identityTypeUnder i (baseIdentityType tree i fun b => unsupported (.unknownBase b.head.name) i.head.path)
  | steps + 1, i => identityTypeUnder i (baseIdentityType tree i (translateIdentityWithin tree steps))

/-- an identity and the identities it derives from; the bases that are not yet registered are different identities -/
def translateIdentity (tree : Tree) (i : Identity) : Translator SymbolicName :=
  translateIdentityWithin tree (tree.identities.size + 1) i

/-- an object type of a node -/
def emitObjectType (h : Head) (name : SymbolicName) (base : SymbolicName) (isAbstract : Bool)
    (children : List Member) : Translator Definition := do
  let d : Definition :=
    ⟨plainLabels name h.name.localName h.description, .objectType (some base) isAbstract children⟩
  emit d
  return d

/-- the type of objects that derive from nothing else -/
def baseObjectType : SymbolicName :=
  builtInName "BaseObjectType"

/-- the type of a container -/
def containerTypeOf (h : Head) (members : Translator (List Member)) : Translator SymbolicName := do
  let name ← nameFor (ownerOf h) "ContainerType"
  register .objectType name do
    let children ← members
    emitObjectType h name baseObjectType false children

/-- the types of a list: of the list, of its elements, and of the references between them -/
structure ListTypes where
  list : SymbolicName
  element : SymbolicName
  reference : SymbolicName
  deriving DecidableEq, Repr

/-- the types of a list -/
def listTypesOf (h : Head) (members : Translator (List Member)) : Translator ListTypes := do
  let listName ← nameFor (ownerOf h) "ListType"
  let list ← register .objectType listName (emitObjectType h listName baseObjectType false [])
  let elementName ← nameFor (ownerOf h) "ListElementType"
  let element ← register .objectType elementName do
    let children ← members
    emitObjectType h elementName baseObjectType false children
  let referenceName ← nameFor (ownerOf h) "ListElementReferenceType"
  let reference ← register .referenceType referenceName do
    let (browse, display) := visibleNames h.name.localName none "Contains" ""
    let d : Definition :=
      ⟨⟨referenceName, browse, display, describe h.description⟩, .referenceType (some (builtInName "HasComponent"))⟩
    emit d
    return d
  return ⟨list, element, reference⟩

/-- the data type of a leaf or leaf-list -/
def leafDataType (h : Head) (type : Option TypeDef) : Translator SymbolicName :=
  match type with
  | some t => dataTypeOf t
  | none => unsupported (.untyped h.name.localName) h.path

/-- the variable type of a leaf or leaf-list -/
def variableType (h : Head) (type : Option TypeDef) (role : String) (rank : ValueRank) : Translator SymbolicName := do
  let name ← nameFor (ownerOf h) role
  register .variableType name do
    let dataType ← leafDataType h type
    let d : Definition := ⟨plainLabels name h.name.localName h.description,
      .variableType (some (builtInName "BaseDataVariableType")) (some dataType) rank⟩
    emit d
    return d

/-- the type of a leaf -/
def leafType (h : Head) (type : Option TypeDef) : Translator SymbolicName :=
  variableType h type "LeafType" .scalar

/-- the type of a leaf-list -/
def leafListType (h : Head) (type : Option TypeDef) : Translator SymbolicName :=
  variableType h type "LeafListType" .array

/-- the type of a choice; `cases` registers the types of its cases under it -/
def choiceTypeOf (h : Head) (cases : SymbolicName → Translator Unit) : Translator SymbolicName := do
  let name ← nameFor (ownerOf h) "ChoiceType"
  register .objectType name do
    let d ← emitObjectType h name baseObjectType true []
    cases name
    return d

/-- the type of a case of a choice -/
def caseTypeOf (h : Head) (choice : SymbolicName) (members : Translator (List Member)) : Translator SymbolicName := do
  let name ← nameFor (ownerOf h) "CaseType"
  register .objectType name do
    let children ← members
    emitObjectType h name choice false children

/-- the data type of a typedef, if it has a type -/
def translateTypedef (type : Option TypeDef) : Translator (Option SymbolicName) :=
  match type with
  | some t => some <$> dataTypeOf t
  | none => return none

/-! ## Members -/

mutual

/-- names of the data nodes among some nodes, those of choices included -/
def dataNames : List Node → List QName
  | [] => []
  | n :: ns => dataNamesOf n ++ dataNames ns

/-- the name of a data node; for a choice, the names of the data nodes in its cases -/
def dataNamesOf : Node → List QName
  | ⟨head, kind, children⟩ =>
    match kind with
    | .choice => caseNames children
    | kind => if kind.isData then [head.name] else []

/-- names of the data nodes in some cases -/
def caseNames : List Node → List QName
  | [] => []
  | c :: cs => caseNamesOf c ++ caseNames cs

/-- names of the data nodes in a case -/
def caseNamesOf : Node → List QName
  | ⟨_, _, children⟩ => dataNames children

end

/-- a description with the types and keys of a list added -/
def listDescription (types : ListTypes) (keys : List String) (description : Option String) : Option String :=
  description.map fun text =>
    text ++ "\n\telement type: " ++ types.element.name ++ "\n\treference type: " ++ types.reference.name ++
      "\n\telement key: " ++ ", ".intercalate keys

/-- the member for a list -/
def listMember (h : Head) (keys : List String) (types : ListTypes) : Translator Member := do
  let (browse, display) := visibleNames h.name.localName none "" "List"
  let name ← nameFor (ownerOf h) ""
  return .objectNode ⟨name, browse, display, listDescription types keys (describe h.description)⟩ (some types.list) [] []

/-- the objects for the entries of a list; `members` fills the members of one entry -/
def listElements (h : Head) (types : ListTypes) (owner : Enclosing) (entries : List (List DataNode))
    (members : List DataNode → Enclosing → Translator (List Member)) : Translator (List Definition) := do
  let listName ← nameFor (ownerOf h) ""
  let target : SymbolicName := ⟨listName.namespaceUri, owner.name.name ++ "_" ++ listName.name⟩
  let elements ← entries.mapM fun entry => do
    let i ← nextElement listName
    let name ← nameFor (ownerOf h) ("ElementInstance" ++ toString i)
    let (browse, display) := visibleNames h.name.localName none "" (" " ++ toString i)
    let children ← members entry ⟨name, browse⟩
    let d : Definition := ⟨⟨name, browse, display, describe h.description⟩,
      .object (some types.element) [⟨types.reference, target, true⟩] children⟩
    emit d
    return d
  note (.materialized elements.length listName.name)
  return elements

/-- the member for a leaf; data gives it a default value -/
def leafMember (h : Head) (type : Option TypeDef) (data : List DataNode) (owner : Option Enclosing) :
    Translator Member := do
  let variableType ← leafType h type
  let (browse, display) := visibleNames h.name.localName (owner.map (·.browse)) "" ""
  let default ← match findChild? DataNode.leafValue? h.name data with
    | some v => do
      let dataType ← leafDataType h type
      pure (some ⟨dataType, v⟩)
    | none => pure none
  let name ← nameFor (ownerOf h) ""
  return .variableNode ⟨name, browse, display, describe h.description⟩ (some variableType) .scalar (some .readWrite)
    default

/-- the member for a leaf-list; data of an object gives it a default value -/
def leafListMember (h : Head) (type : Option TypeDef) (data : List DataNode) (owner : Option Enclosing) :
    Translator Member := do
  let variableType ← leafListType h type
  let (browse, display) := visibleNames h.name.localName none "" ""
  let default ← match findChild? DataNode.leafListValues? h.name data, owner with
    | some vs, some _ => do
      let dataType ← leafDataType h type
      pure (some ⟨dataType, .tuple vs⟩)
    | _, _ => pure none
  let name ← nameFor (ownerOf h) ""
  return .variableNode ⟨name, browse, display, describe h.description⟩ (some variableType) .array none default

/-- the member for a container; `members` fills it from data of an object -/
def containerMember (h : Head) (type : SymbolicName) (data : List DataNode) (owner : Option Enclosing)
    (members : List DataNode → Enclosing → Translator (List Member)) : Translator Member := do
  let name ← nameFor (ownerOf h) ""
  let (browse, display) := visibleNames h.name.localName none "" ""
  let children ← match findChild? DataNode.containerChildren? h.name data, owner with
    | some ds, some owner => members ds (owner.member name browse)
    | _, _ => pure []
  return .objectNode ⟨name, browse, display, describe h.description⟩ (some type) [] children

/-- the member for a choice; data below it is skipped -/
def choiceMember (h : Head) (type : SymbolicName) (cases : List Node) (data : List DataNode)
    (owner : Option Enclosing) : Translator Member := do
  if owner.isSome && data.any fun d => (caseNames cases).contains d.name then
    note (.skippedChoice h.path)
  let (browse, display) := visibleNames h.name.localName none "" ""
  let name ← nameFor (ownerOf h) ""
  return .objectNode ⟨name, browse, display, describe h.description⟩ (some type) [] []

mutual

/-- the member for a child, if it has one; its types are registered on the way -/
def memberOf (data : List DataNode) (owner : Option Enclosing) : Node → Translator (Option Member)
  | ⟨h, kind, children⟩ =>
    match kind with
    | .other keyword _ =>
      if ignoredChildren.contains keyword then do
        note (.ignoredBelow keyword h.path.dropLast)
        return none
      else unsupported (.child keyword) h.path
    | .list keys => do
      let types ← listTypesOf h (membersOf [] none children)
      let member ← listMember h keys types
      match findChild? DataNode.listEntries? h.name data, owner with
      | some entries, some owner =>
        let _ ← listElements h types owner entries fun ds e => membersOf ds (some e) children
      | _, _ => pure ()
      return some member
    | .leaf type => some <$> leafMember h type data owner
    | .leafList type => some <$> leafListMember h type data owner
    | .container => do
      let type ← containerTypeOf h (membersOf [] none children)
      some <$> containerMember h type data owner fun ds e => membersOf ds (some e) children
    | .choice => do
      let type ← choiceTypeOf h fun name => caseTypesOf name children
      some <$> choiceMember h type children data owner
    | .typedef type => do
      let _ ← translateTypedef type
      return none
    | .case | .identity _ => unsupported (.child kind.title) h.path

/-- the members for some children, in order -/
def membersOf (data : List DataNode) (owner : Option Enclosing) : List Node → Translator (List Member)
  | [] => return []
  | n :: ns => do
    let m ← memberOf data owner n
    let ms ← membersOf data owner ns
    return m.toList ++ ms

/-- the types of the cases of a choice -/
def caseTypesOf (choice : SymbolicName) : List Node → Translator Unit
  | [] => return ()
  | ⟨h, _, children⟩ :: cs => do
    let _ ← caseTypeOf h choice (membersOf [] none children)
    caseTypesOf choice cs

end

/-- the members of types for some children -/
def typeMembers (children : List Node) : Translator (List Member) :=
  membersOf [] none children

/-- the type of a container node -/
def containerType (n : Node) : Translator SymbolicName :=
  containerTypeOf n.head (typeMembers n.children)

/-- the types of a list node -/
def listTypes (n : Node) : Translator ListTypes :=
  listTypesOf n.head (typeMembers n.children)

/-- the type of a choice node and of its cases -/
def choiceType (n : Node) : Translator SymbolicName :=
  choiceTypeOf n.head fun name => caseTypesOf name n.children

/-- the type of a case node under a choice type -/
def caseType (n : Node) (choice : SymbolicName) : Translator SymbolicName :=
  caseTypeOf n.head choice (typeMembers n.children)

/-- the object for a container at the top of a module, organized under the folder of objects -/
def containerInstance (n : Node) (type : SymbolicName) (data : List DataNode) : Translator Definition := do
  let name ← nameFor (ownerOf n.head) "ContainerInstance"
  let (browse, display) := visibleNames n.label none "" ""
  let children ← membersOf data (some ⟨name, browse⟩) n.children
  let d : Definition := ⟨⟨name, browse, display, describe n.head.description⟩,
    .object (some type) [⟨builtInName "Organizes", builtInName "ObjectsFolder", true⟩] children⟩
  emit d
  return d

end YangDesign.Translate
