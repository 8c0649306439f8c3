/-
The nodes of a document: scalars, sequences and mappings, each with a tag.

Nodes refer to each other by their places in a graph, because an alias is no copy of a node but the node itself. So a node may
stand at several places, and may even be a part of itself.
-/
import YangDesign.Yaml.Typing

namespace YangDesign.Yaml

open Text

/-- a member of a mapping: the places of its key and of its value -/
abbrev Member := Nat × Nat

/-- what a node holds -/
inductive Content where
  | scalar (text : Coded)
  | sequence (items : List Nat)
  | mapping (members : List Member)
  deriving DecidableEq, Repr

/-- a node -/
structure Node where
  tag : Tag
  content : Content
  deriving DecidableEq, Repr

/-- the node of an empty place -/
def Node.empty : Node :=
  ⟨.null, .scalar (.text "")⟩

/-- the members of a node that is a mapping -/
def Node.members (n : Node) : List Member :=
  match n.content with
  | .mapping ms => ms
  | _ => []

/-- nodes by their places -/
abbrev Graph := Array Node

namespace Graph

/-- the node at a place -/
def node (g : Graph) (place : Nat) : Node :=
  g.getD place .empty

/-- the graph with another content of the node at a place -/
def setContent (g : Graph) (place : Nat) (content : Content) : Graph :=
  g.modify place fun n => { n with content }

/-- the graph with another tag of the node at a place -/
def setTag (g : Graph) (place : Nat) (tag : Tag) : Graph :=
  g.modify place fun n => { n with tag }

/-- number of members whose key is the merge key -/
def mergeCount (g : Graph) : Nat :=
  (g.toList.flatMap Node.members).countP fun (k, _) => (g.node k).tag = .merge

end Graph

end YangDesign.Yaml
