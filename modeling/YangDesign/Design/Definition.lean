/-
Definitions of a design: the types and objects it declares, each with the members below it.
-/
import YangDesign.Design.Name
import YangDesign.Value

namespace YangDesign.Design

/-- whether a variable holds one value or many -/
inductive ValueRank where
  | scalar
  | array
  deriving DecidableEq, Repr

/-- name of a value rank -/
def ValueRank.name : ValueRank → String
  | .scalar => "Scalar"
  | .array => "Array"

/-- what may be done with the value of a variable -/
inductive AccessLevel where
  | read
  | write
  | readWrite
  deriving DecidableEq, Repr

/-- name of an access level -/
def AccessLevel.name : AccessLevel → String
  | .read => "Read"
  | .write => "Write"
  | .readWrite => "ReadWrite"

/-- a field of a data type; for an enumeration, one label with its number -/
structure Field where
  name : String
  identifier : Option Int
  description : Option String
  deriving DecidableEq, Repr

/-- a reference from a node to another node -/
structure Reference where
  type : SymbolicName
  target : SymbolicName
  inverse : Bool
  deriving DecidableEq, Repr

/-- the default value of a variable; a tuple for an array -/
structure DefaultValue where
  dataType : SymbolicName
  value : Value
  deriving Repr

/-- the names and the description of a node -/
structure Labels where
  symbolic : SymbolicName
  browse : String
  display : String
  description : Option String
  deriving DecidableEq, Repr

/-- a node declared as a child of a type or of an object -/
inductive Member where
  | variableNode (labels : Labels) (type : Option SymbolicName) (rank : ValueRank) (access : Option AccessLevel)
      (default : Option DefaultValue)
  | objectNode (labels : Labels) (type : Option SymbolicName) (references : List Reference) (children : List Member)
  deriving Repr

namespace Member

/-- names and description of a member -/
def labels : Member → Labels
  | .variableNode l .. => l
  | .objectNode l .. => l

/-- type of a member -/
def type : Member → Option SymbolicName
  | .variableNode _ t .. => t
  | .objectNode _ t .. => t

/-- members below a member -/
def children : Member → List Member
  | .variableNode .. => []
  | .objectNode _ _ _ cs => cs

end Member

/-- what a definition declares -/
inductive Content where
  | dataType (base : Option SymbolicName) (fields : List Field)
  | objectType (base : Option SymbolicName) (isAbstract : Bool) (children : List Member)
  | variableType (base : Option SymbolicName) (dataType : Option SymbolicName) (rank : ValueRank)
  | referenceType (base : Option SymbolicName)
  | object (type : Option SymbolicName) (references : List Reference) (children : List Member)
  deriving Repr

/-- kinds of definitions, as the elements they are written in -/
inductive DefinitionKind where
  | dataType
  | objectType
  | variableType
  | referenceType
  | object
  deriving DecidableEq, Repr

namespace DefinitionKind

/-- all kinds in the order of reports -/
def all : List DefinitionKind :=
  [.dataType, .objectType, .variableType, .referenceType, .object]

/-- element name of a kind -/
def element : DefinitionKind → String
  | .dataType => "DataType"
  | .objectType => "ObjectType"
  | .variableType => "VariableType"
  | .referenceType => "ReferenceType"
  | .object => "Object"

/-- name of a kind in reports -/
def title (k : DefinitionKind) : String :=
  k.element ++ "Design"

end DefinitionKind

/-- kind of a content -/
def Content.kind : Content → DefinitionKind
  | .dataType .. => .dataType
  | .objectType .. => .objectType
  | .variableType .. => .variableType
  | .referenceType .. => .referenceType
  | .object .. => .object

/-- a definition of a design -/
structure Definition where
  labels : Labels
  content : Content
  deriving Repr

namespace Definition

/-- symbolic name of a definition -/
def name (d : Definition) : SymbolicName :=
  d.labels.symbolic

/-- kind of a definition -/
def kind (d : Definition) : DefinitionKind :=
  d.content.kind

/-- members of a definition -/
def children (d : Definition) : List Member :=
  match d.content with
  | .objectType _ _ cs => cs
  | .object _ _ cs => cs
  | _ => []

/-- the type a definition derives from -/
def base? (d : Definition) : Option SymbolicName :=
  match d.content with
  | .dataType b _ => b
  | .objectType b _ _ => b
  | .variableType b _ _ => b
  | .referenceType b => b
  | .object .. => none

end Definition

end YangDesign.Design
