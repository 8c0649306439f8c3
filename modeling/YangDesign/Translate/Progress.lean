/-
The state of a translation, and the steps that every part of it uses: naming a node, registering a type, emitting a
definition, numbering the elements of a list.

A failed translation keeps the state it reached.
-/
import YangDesign.Journal
import YangDesign.Translate.Failure
import YangDesign.Translate.Naming
import YangDesign.Translate.Registry

namespace YangDesign.Translate

open Design

/-- what a translation has done so far -/
structure Progress where
  namer : Namer
  document : ModelDocument
  registry : Registry
  counters : Assoc SymbolicName Nat
  journal : Journal
  deriving Repr

/-- nothing done yet -/
def Progress.start (document : ModelDocument) : Progress :=
  ⟨.new document.target, document, .empty, .empty, []⟩

instance : HasRegistry Progress where
  registry p := p.registry
  withRegistry r p := { p with registry := r }

/-- a part of a translation -/
abbrev Translator (α : Type) := Build Progress Failure α

/-- a failure at a path -/
def unsupported {α : Type} (cause : Cause) (path : List String) : Translator α :=
  throw (.untranslatable cause path)

/-- an event noted -/
def note (e : Event) : Translator Unit :=
  modify fun p => { p with journal := p.journal ++ [e] }

/-- the name of a node in a role -/
def nameFor (owner : Owner) (role : String) : Translator SymbolicName := do
  let (result, namer) := (← get).namer.nameFor owner role
  modify ({ · with namer })
  match result with
  | .ok name => return name
  | .error (.notSymbol name) => unsupported (.notSymbol name) owner.path
  | .error (.clash name path other) => unsupported (.clash name path other) owner.path

/-- whether a name is registered -/
def isRegistered (f : Family) (n : SymbolicName) : Translator Bool :=
  return (← get).registry.isRegistered f n

/-- a name, with its definition built if the name is new -/
def register (f : Family) (n : SymbolicName) (build : Translator Definition) : Translator SymbolicName :=
  obtain f n do
    note (.registering f.name n.name)
    build

/-- a definition at the end of the design -/
def emit (d : Definition) : Translator Unit := do
  match (← get).document.append d with
  | some document =>
    modify ({ · with document })
    note (.emitted d.kind.title d.name.name)
  | none => throw (.duplicate d.name)

/-- the number of the next element of a list -/
def nextElement (list : SymbolicName) : Translator Nat := do
  let i := ((← get).counters.find? list).getD 0
  modify fun p => { p with counters := p.counters.insert list (i + 1) }
  return i

end YangDesign.Translate
