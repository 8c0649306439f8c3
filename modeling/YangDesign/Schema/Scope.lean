/-
Typedefs in scope: one frame for each statement list that can declare typedefs, the innermost frame first.

`Frame.declare` refuses a name that a list declares twice; `lookUp` finds the innermost declaration of a name together with
the scope in which it stands, which is where its own type is to be read. A typedef with its namespace and this scope is a
`Declaration`.
-/
import YangDesign.Schema.Document

namespace YangDesign.Schema

/-- a typedef and the path at which it stands -/
structure TypedefDecl where
  name : String
  type : TypeRef
  description : Option String
  path : List String
  deriving DecidableEq, Repr

/-- the typedefs of one statement list in order of declaration -/
abbrev Frame := List TypedefDecl

/-- frames from the innermost outward -/
abbrev Scope := List Frame

/-- the typedef of a name -/
def Frame.find? (f : Frame) (name : String) : Option TypedefDecl :=
  List.find? (·.name == name) f

/-- a frame with the typedefs of further statements; the name of the first that is declared twice otherwise -/
def Frame.declare (path : List String) (f : Frame) : List Statement → Except String Frame
  | [] => .ok f
  | .named name description (.typedef type) _ :: ss =>
    if (f.find? name).isSome then .error name
    else Frame.declare path (f ++ [⟨name, type, description, path ++ [name]⟩]) ss
  | _ :: ss => Frame.declare path f ss

/-- the frame of a statement list that stands at a path -/
def Frame.ofStatements (path : List String) (ss : List Statement) : Except String Frame :=
  Frame.declare path [] ss

/-- a typedef with its namespace and the scope in which it is declared -/
structure Declaration where
  typedef : TypedefDecl
  uri : String
  scope : Scope
  deriving DecidableEq, Repr

/-- the typedefs of a scope, those of the innermost frame first -/
def declarations (uri : String) : Scope → List Declaration
  | [] => []
  | f :: fs => f.map (⟨·, uri, f :: fs⟩) ++ declarations uri fs

/-- the innermost typedef of a name, and the scope in which it is declared -/
def lookUp (name : String) : Scope → Option (TypedefDecl × Scope)
  | [] => none
  | f :: fs =>
    match f.find? name with
    | some d => some (d, f :: fs)
    | none => lookUp name fs

end YangDesign.Schema
