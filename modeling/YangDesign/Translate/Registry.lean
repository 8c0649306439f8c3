/-
Names that have been translated, each in a family of its own.

`obtain` reserves a name before it builds the definition, so a build that comes back to its own name finds it reserved. A
name stays reserved when its build fails.
-/
import YangDesign.Assoc
import YangDesign.Design.Definition

namespace YangDesign.Translate

open Design

/-- families of names, which do not share names -/
inductive Family where
  | identity
  | dataType
  | objectType
  | variableType
  | referenceType
  deriving DecidableEq, Repr

/-- name of a family -/
def Family.name : Family → String
  | .identity => "identity"
  | .dataType => "data type"
  | .objectType => "object type"
  | .variableType => "variable type"
  | .referenceType => "reference type"

/-- names with their definitions; a name without one is reserved -/
structure Registry where
  entries : Assoc (Family × SymbolicName) (Option Definition) := .empty
  deriving Repr

namespace Registry

/-- no names -/
def empty : Registry :=
  ⟨.empty⟩

/-- whether a name is reserved or built -/
def isRegistered (r : Registry) (f : Family) (n : SymbolicName) : Bool :=
  r.entries.contains (f, n)

/-- the definition built for a name -/
def lookUp (r : Registry) (f : Family) (n : SymbolicName) : Option Definition :=
  ((r.entries.find? (f, n)).getD none)

/-- a name that is to be built -/
def reserve (r : Registry) (f : Family) (n : SymbolicName) : Registry :=
  ⟨r.entries.insert (f, n) none⟩

/-- the definition of a name -/
def record (r : Registry) (f : Family) (n : SymbolicName) (d : Definition) : Registry :=
  ⟨r.entries.insert (f, n) (some d)⟩

/-- number of names in all families -/
def size (r : Registry) : Nat :=
  r.entries.size

end Registry

/-- a state that holds a registry -/
class HasRegistry (σ : Type) where
  registry : σ → Registry
  withRegistry : Registry → σ → σ

instance : HasRegistry Registry where
  registry r := r
  withRegistry r _ := r

/-- a computation that may fail and keeps its state when it does -/
abbrev Build (σ ε α : Type) := ExceptT ε (StateM σ) α

/-- a name, with its definition built if the name is new -/
def obtain {σ ε : Type} [HasRegistry σ] (f : Family) (n : SymbolicName) (build : Build σ ε Definition) :
    Build σ ε SymbolicName := do
  let r := HasRegistry.registry (← get)
  if r.isRegistered f n then return n
  modify (HasRegistry.withRegistry (r.reserve f n))
  let d ← build
  modify fun s => HasRegistry.withRegistry ((HasRegistry.registry s).record f n d) s
  return n

end YangDesign.Translate
