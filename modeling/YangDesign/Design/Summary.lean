/-
What a design holds, in short: its namespaces, the number of definitions of each kind and their names.
-/
import YangDesign.Design.Document

namespace YangDesign.Design

/-- a design in short -/
structure Summary where
  target : String
  namespaces : Assoc String String
  kinds : List DefinitionKind
  names : List String
  deriving DecidableEq, Repr

namespace Summary

/-- number of definitions of a kind -/
def count (s : Summary) (k : DefinitionKind) : Nat :=
  s.kinds.count k

/-- number of definitions of each kind -/
def counts (s : Summary) : List (String × Nat) :=
  DefinitionKind.all.map fun k => (k.element, s.count k)

/-- number of definitions -/
def total (s : Summary) : Nat :=
  s.kinds.length

end Summary

/-- a design in short; a later namespace of a name takes the place of the earlier -/
def ModelDocument.summary (doc : ModelDocument) : Summary :=
  let ds := doc.definitions.toList
  ⟨doc.target, .ofList (doc.namespaces.map fun n => (n.name, n.uri)), ds.map (·.kind), ds.map (·.name.name)⟩

end YangDesign.Design
