/-
The resolved schema: every node with its qualified name and path, every type with its chain of bases, every identity with
the qualified names of its bases.

A node is the same for all statements: what they have in common (`Head`), what their kind adds (`NodeKind`) and the nodes
below. The children of a choice are its cases.
-/
import YangDesign.Assoc

namespace YangDesign.Schema

/-- a name in a namespace -/
structure QName where
  namespaceUri : String
  localName : String
  deriving DecidableEq, Repr

/-- Clark notation -/
def QName.clark (q : QName) : String :=
  "\x7b" ++ q.namespaceUri ++ "\x7d" ++ q.localName

/-! ## Types -/

/-- built-in types (RFC 7950 section 4.2.4) -/
inductive BuiltIn where
  | binary
  | bits
  | boolean
  | decimal64
  | empty
  | enumeration
  | identityref
  | instanceIdentifier
  | int8
  | int16
  | int32
  | int64
  | leafref
  | string
  | uint8
  | uint16
  | uint32
  | uint64
  | union
  deriving DecidableEq, Repr

namespace BuiltIn

/-- all built-in types -/
def all : List BuiltIn := [
  .binary, .bits, .boolean, .decimal64, .empty, .enumeration, .identityref, .instanceIdentifier, .int8, .int16, .int32,
  .int64, .leafref, .string, .uint8, .uint16, .uint32, .uint64, .union]

/-- name of a built-in type -/
def name : BuiltIn → String
  | .binary => "binary"
  | .bits => "bits"
  | .boolean => "boolean"
  | .decimal64 => "decimal64"
  | .empty => "empty"
  | .enumeration => "enumeration"
  | .identityref => "identityref"
  | .instanceIdentifier => "instance-identifier"
  | .int8 => "int8"
  | .int16 => "int16"
  | .int32 => "int32"
  | .int64 => "int64"
  | .leafref => "leafref"
  | .string => "string"
  | .uint8 => "uint8"
  | .uint16 => "uint16"
  | .uint32 => "uint32"
  | .uint64 => "uint64"
  | .union => "union"

/-- the built-in type of a name -/
def ofName? (s : String) : Option BuiltIn :=
  all.find? (·.name == s)

/-- whether values of the type are defined by more than its name -/
def isDependent : BuiltIn → Bool
  | .enumeration | .union | .identityref | .instanceIdentifier | .leafref => true
  | _ => false

theorem ofName?_name (b : BuiltIn) : ofName? b.name = some b := by
  cases b <;> decide

theorem name_of_ofName? {s : String} {b : BuiltIn} (h : ofName? s = some b) : b.name = s := by
  simpa using List.find?_some h

end BuiltIn

/-- the root of a chain of types: a built-in type, or a name that is none -/
inductive Kind where
  | builtIn (type : BuiltIn)
  | unknown (name : String)
  deriving DecidableEq, Repr

/-- name of a kind -/
def Kind.name : Kind → String
  | .builtIn b => b.name
  | .unknown name => name

/-- the kind of a name -/
def Kind.ofName (s : String) : Kind :=
  match BuiltIn.ofName? s with
  | some b => .builtIn b
  | none => .unknown s

/-- a label of an enumeration -/
structure EnumValue where
  name : String
  value : Int
  description : Option String
  deriving DecidableEq, Repr

/-- a type: a built-in one, or one that restricts its base -/
structure TypeDef where
  name : QName
  path : List String
  kind : Kind
  base : Option TypeDef
  enums : List EnumValue
  description : Option String
  deriving Repr

/-- whether a type stands for a built-in name with nothing added -/
def TypeDef.isPrimitive (t : TypeDef) : Bool :=
  t.base.isNone && match t.kind with
    | .builtIn b => !b.isDependent
    | .unknown _ => true

/-! ## Nodes -/

/-- what every node has -/
structure Head where
  name : QName
  path : List String
  description : Option String
  deriving DecidableEq, Repr

/-- what the kind of a node adds; a leaf or typedef made by hand may lack a type -/
inductive NodeKind where
  | container
  | list (keys : List String)
  | leaf (type : Option TypeDef)
  | leafList (type : Option TypeDef)
  | choice
  | case
  | typedef (type : Option TypeDef)
  | identity (bases : List QName)
  | other (keyword : String) (argument : Option String)
  deriving Repr

/-- name of a kind of node -/
def NodeKind.title : NodeKind → String
  | .container => "ContainerNode"
  | .list _ => "ListNode"
  | .leaf _ => "LeafNode"
  | .leafList _ => "LeafListNode"
  | .choice => "ChoiceNode"
  | .case => "CaseNode"
  | .typedef _ => "TypedefNode"
  | .identity _ => "IdentityNode"
  | .other .. => "OpaqueStatement"

/-- whether nodes of the kind appear in instance data under their own name -/
def NodeKind.isData : NodeKind → Bool
  | .container | .list _ | .leaf _ | .leafList _ => true
  | _ => false

/-- a node of the schema tree -/
structure Node where
  head : Head
  kind : NodeKind
  children : List Node
  deriving Repr

/-- local name of a node -/
def Node.label (n : Node) : String :=
  n.head.name.localName

/-- a resolved module -/
structure Module where
  name : String
  namespaceUri : String
  modulePrefix : String
  statements : List Node
  description : Option String
  deriving Repr

/-- an identity with the names of its bases -/
structure Identity where
  head : Head
  bases : List QName
  deriving DecidableEq, Repr

/-- a node as an identity -/
def Node.identity? (n : Node) : Option Identity :=
  match n.kind with
  | .identity bases => some ⟨n.head, bases⟩
  | _ => none

/-- the resolved modules in order of declaration -/
structure Tree where
  modules : List Module
  deriving Repr

namespace Tree

/-- the identities at the top of a module, a later one of the same name in the place of the earlier -/
def identities (t : Tree) : Assoc QName Identity :=
  .ofList ((t.modules.flatMap fun m => m.statements.filterMap Node.identity?).map fun i => (i.head.name, i))

/-- the identity of a name -/
def identity? (t : Tree) (q : QName) : Option Identity :=
  t.identities.find? q

/-- the first module of a name -/
def module? (t : Tree) (name : String) : Option Module :=
  t.modules.find? (·.name == name)

end Tree

end YangDesign.Schema
