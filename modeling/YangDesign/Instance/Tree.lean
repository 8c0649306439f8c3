/-
Decoded instance data: a node for every member of the data, named for the schema node that it instantiates.
-/
import YangDesign.Schema.Tree
import YangDesign.Value

namespace YangDesign.Instance

open Schema

/-- a data node; a list holds the children of each of its entries -/
inductive DataNode where
  | leaf (name : QName) (value : Value)
  | leafList (name : QName) (values : List Value)
  | container (name : QName) (children : List DataNode)
  | list (name : QName) (entries : List (List DataNode))
  deriving Repr

namespace DataNode

/-- name of the schema node -/
def name : DataNode → QName
  | .leaf q _ => q
  | .leafList q _ => q
  | .container q _ => q
  | .list q _ => q

/-- the value of a leaf -/
def leafValue? : DataNode → Option Value
  | .leaf _ v => some v
  | _ => none

/-- the values of a leaf-list -/
def leafListValues? : DataNode → Option (List Value)
  | .leafList _ vs => some vs
  | _ => none

/-- the children of a container -/
def containerChildren? : DataNode → Option (List DataNode)
  | .container _ cs => some cs
  | _ => none

/-- the entries of a list -/
def listEntries? : DataNode → Option (List (List DataNode))
  | .list _ es => some es
  | _ => none

end DataNode

/-- what the first node of a name holds, among those that `select` admits -/
def findChild? {α : Type} (select : DataNode → Option α) (q : QName) (children : List DataNode) : Option α :=
  children.findSome? fun c => if c.name = q then select c else none

end YangDesign.Instance
