/-
The types a definition and its members refer to, and the references that break the order of a design.

The target of a reference between nodes is a node, not a type, and is not among them.
-/
import YangDesign.Design.Document

namespace YangDesign.Design

/-- the attribute that holds a type reference -/
inductive Role where
  | baseType
  | dataType
  | typeDefinition
  | defaultValue
  | referenceType
  deriving DecidableEq, Repr

/-- name of a role -/
def Role.name : Role → String
  | .baseType => "BaseType"
  | .dataType => "DataType"
  | .typeDefinition => "TypeDefinition"
  | .defaultValue => "DefaultValue"
  | .referenceType => "ReferenceType"

/-- a type that a definition refers to -/
structure TypeReference where
  source : SymbolicName
  target : SymbolicName
  role : Role
  deriving DecidableEq, Repr

/-- a target with its role -/
abbrev Target := SymbolicName × Role

/-- a target that may be absent -/
def target? (n : Option SymbolicName) (role : Role) : List Target :=
  (n.map (·, role)).toList

/-- the types of references between nodes -/
def referenceTargets (rs : List Reference) : List Target :=
  rs.map fun r => (r.type, .referenceType)

mutual

/-- the types a member refers to -/
def Member.targets : Member → List Target
  | .variableNode _ type _ _ default =>
    target? type .typeDefinition ++ target? (default.map (·.dataType)) .defaultValue
  | .objectNode _ type references children =>
    target? type .typeDefinition ++ referenceTargets references ++ Member.targetsOf children

/-- the types some members refer to -/
def Member.targetsOf : List Member → List Target
  | [] => []
  | m :: ms => m.targets ++ Member.targetsOf ms

end

/-- the types a definition refers to, in reading order -/
def Definition.targets (d : Definition) : List Target :=
  match d.content with
  | .dataType base _ => target? base .baseType
  | .objectType base _ children => target? base .baseType ++ Member.targetsOf children
  | .variableType base dataType _ => target? base .baseType ++ target? dataType .dataType
  | .referenceType base => target? base .baseType
  | .object type references children =>
    target? type .typeDefinition ++ referenceTargets references ++ Member.targetsOf children

/-- the type references of a definition -/
def Definition.typeReferences (d : Definition) : List TypeReference :=
  d.targets.map fun (n, role) => ⟨d.name, n, role⟩

/-- whether a reference at a position points to the built-in vocabulary or to a definition not after the position -/
def ModelDocument.isSettled (doc : ModelDocument) (position : Nat) (r : TypeReference) : Bool :=
  r.target.isBuiltIn || match doc.indexOf? r.target with
    | some i => i ≤ position
    | none => false

/-- the type references that are not settled where they stand -/
def ModelDocument.violations (doc : ModelDocument) : List TypeReference :=
  doc.numbered.flatMap fun (d, i) => d.typeReferences.filter fun r => !doc.isSettled i r

end YangDesign.Design
