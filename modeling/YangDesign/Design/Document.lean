/-
A design: its namespaces and its definitions in order, with an index of their names.

`ModelDocument.append` refuses a name that the index holds. `ModelDocument.place` puts a definition at the end without
looking at the index, for designs that come from elsewhere.
-/
import YangDesign.Assoc
import YangDesign.Design.Definition

namespace YangDesign.Design

/-- a namespace that a design declares -/
structure Namespace where
  name : String
  uri : String
  version : Option String
  publicationDate : Option String
  designPrefix : Option String
  internalPrefix : Option String
  xmlNamespace : Option String
  xmlPrefix : Option String
  deriving DecidableEq, Repr

/-- a design -/
structure ModelDocument where
  target : String
  namespaces : List Namespace
  definitions : Array Definition
  index : Assoc SymbolicName Nat
  deriving Repr

namespace ModelDocument

/-- a design without definitions -/
def new (target : String) (namespaces : List Namespace) : ModelDocument :=
  ⟨target, namespaces, #[], .empty⟩

/-- a definition at the end; none if its name is taken -/
def append (doc : ModelDocument) (d : Definition) : Option ModelDocument :=
  if doc.index.contains d.name then none
  else some { doc with
    definitions := doc.definitions.push d
    index := doc.index.insert d.name doc.definitions.size }

/-- a definition at the end, which the index does not learn of -/
def place (doc : ModelDocument) (d : Definition) : ModelDocument :=
  { doc with definitions := doc.definitions.push d }

/-- the position of a name -/
def indexOf? (doc : ModelDocument) (n : SymbolicName) : Option Nat :=
  doc.index.find? n

/-- the definition of a name -/
def get? (doc : ModelDocument) (n : SymbolicName) : Option Definition :=
  (doc.indexOf? n).bind (doc.definitions[·]?)

/-- whether the index holds a name -/
def contains (doc : ModelDocument) (n : SymbolicName) : Bool :=
  doc.index.contains n

/-- number of definitions -/
def size (doc : ModelDocument) : Nat :=
  doc.definitions.size

/-- the definitions of a kind in order -/
def ofKind (doc : ModelDocument) (k : DefinitionKind) : List Definition :=
  doc.definitions.toList.filter (·.kind == k)

/-- the definitions with their positions -/
def numbered (doc : ModelDocument) : List (Definition × Nat) :=
  doc.definitions.toList.zipIdx

/-- wording for a name that is taken -/
def duplicateMessage (n : SymbolicName) : String :=
  "duplicate symbolic name: " ++ n.name

end ModelDocument

end YangDesign.Design
