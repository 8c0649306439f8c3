/-
What is known while a document is read, besides what is read: the last note, the identifiers and contents of entities so far,
and what entities have cost.

A document is refused if something in it is not well formed, or if the last note is an error: later warnings make up for
errors. References to entities cost what they add, so that a short document cannot grow without a bound.
-/
import YangDesign.Xml.Content
import YangDesign.Xml.Piece

namespace YangDesign.Xml

/-- what is known; the content of an entity is kept with what it has cost -/
structure Progress where
  note : Option Note
  ids : List String
  contents : List (String × Content × Nat)
  spent : Nat
  deriving Repr

/-- nothing is known -/
def Progress.initial : Progress :=
  ⟨none, [], [], 0⟩

/-- a step of reading, which fails if the document is not well formed -/
abbrev Reading := StateT Progress Option

namespace Reading

/-- a note -/
def record (n : Note) : Reading Unit :=
  modify fun p => { p with note := some n }

/-- a note if there is one -/
def recordIf (n : Option Note) : Reading Unit :=
  modify fun p => { p with note := n.or p.note }

/-- an identifier, which is noted if another element has it -/
def claimId (id : String) : Reading Unit := do
  if (← get).ids.contains id then record .error
  else if !id.isEmpty then modify fun p => { p with ids := id :: p.ids }

/-- what all references together may cost -/
def budget : Nat := 1000000

/-- what a reference costs -/
def spend (cost : Nat) : Reading Unit := do
  modify fun p => { p with spent := p.spent + cost }
  guard ((← get).spent ≤ budget)

/-- what a reference costs besides the characters that it adds -/
def baseCost : Nat := 20

/-- the cost of a reference to a text -/
def spendOn (text : List Char) : Reading Unit :=
  spend (baseCost + text.length)

/-- the result of reading all of a document -/
def run? {α : Type} (r : Reading α) : Option α := do
  let (a, p) ← r.run .initial
  guard (p.note != some .error)
  return a

end Reading

end YangDesign.Xml
