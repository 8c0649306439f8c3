/-
Decoding of an RFC 7951 document against a resolved schema.

A member at the top is `module:name`; a member below is `name`, in the namespace of the node above it, or `module:name`.
Choices and cases do not appear in the data: `decodeAmong` looks through them, and the first node in document order is taken.
Decoding follows the schema down, so it ends also for a value that holds itself.
-/
import YangDesign.Instance.Leaf
import YangDesign.Instance.Tree

namespace YangDesign.Instance

open Schema

/-- an answer or a failure -/
abbrev Decoded (α : Type) := Except DataFailure α

/-- a failure at a path -/
def misfit {α : Type} (path : List String) (cause : DataCause) : Decoded α :=
  .error (.of path cause)

/-- a member name as it is shown -/
def memberName : Value → Decoded String
  | .text s => .ok s
  | .broken codes => .ok (.ofList (Text.joinHalves codes))
  | k => .error (.memberNotText k)

/-- the name of the node that a member stands for below a node of a namespace -/
def qualifiedName (tree : Tree) (uri member : String) (path : List String) : Decoded QName :=
  match Text.splitQualified member with
  | (none, localName) => .ok ⟨uri, localName⟩
  | (some label, localName) =>
    match tree.module? label with
    | some m => .ok ⟨m.namespaceUri, localName⟩
    | none => misfit path (.unknownModule label)

/-- the members of an object below a node of a namespace, where `decode` finds the node of a name and decodes a value for it -/
def decodeMembers (tree : Tree) (uri : String) (path : List String)
    (decode : QName → List String → Value → Option (Decoded DataNode)) (v : Value) : Decoded (List DataNode) :=
  match v.head with
  | .map ms => ms.mapM fun (k, v) => do
    let member ← memberName k
    let path := path ++ [member]
    let q ← qualifiedName tree uri member path
    (decode q path v).getD (misfit path (.unknownMember member))
  | _ => misfit path (.notObject v.kindName)

/-- every item, from an index on, with the index added to the path -/
def decodeItems {α : Type} (path : List String) (decode : List String → Value → Decoded α) : Nat → List Value → Decoded (List α)
  | _, [] => .ok []
  | i, v :: vs => do
    let a ← decode (path ++ [toString i]) v
    let as ← decodeItems path decode (i + 1) vs
    return a :: as

mutual

/-- the data of one node -/
def decodeNode (tree : Tree) : Node → List String → Value → Decoded DataNode
  | ⟨head, kind, children⟩, path, v =>
    let members := fun path v => decodeMembers tree head.name.namespaceUri path (decodeAmong tree children) v
    match kind with
    | .container => (members path v).map (.container head.name)
    | .list _ =>
      match v.head with
      | .list vs => (decodeItems path members 0 vs).map (.list head.name)
      | _ => misfit path .listNotArray
    | .leafList type =>
      match v.head with
      | .list vs => (vs.mapM (decodeLeaf type path)).map (.leafList head.name)
      | _ => misfit path .leafListNotArray
    | .leaf type => (decodeLeaf type path v).map (.leaf head.name)
    | _ => misfit path (.noData (Node.mk head kind children).label)

/-- the data of the first node of a name among some nodes, those of choices included -/
def decodeAmong (tree : Tree) : List Node → QName → List String → Value → Option (Decoded DataNode)
  | [], _, _, _ => none
  | n :: ns, q, path, v =>
    match decodeAs tree n q path v with
    | some d => some d
    | none => decodeAmong tree ns q path v

/-- the data of a node if it has a name, or of a node of that name in its cases if it is a choice -/
def decodeAs (tree : Tree) : Node → QName → List String → Value → Option (Decoded DataNode)
  | ⟨head, kind, children⟩, q, path, v =>
    match kind with
    | .choice => decodeInCases tree children q path v
    | kind => if kind.isData && head.name = q then some (decodeNode tree ⟨head, kind, children⟩ path v) else none

/-- the data of the first node of a name in some cases -/
def decodeInCases (tree : Tree) : List Node → QName → List String → Value → Option (Decoded DataNode)
  | [], _, _, _ => none
  | ⟨_, _, children⟩ :: cs, q, path, v =>
    match decodeAmong tree children q path v with
    | some d => some d
    | none => decodeInCases tree cs q path v

end

/-- one member at the top, which names its module -/
def decodeTop (tree : Tree) (member : String) (v : Value) : Decoded DataNode :=
  match Text.splitQualified member with
  | (none, _) => misfit [] (.unqualified member)
  | (some label, localName) =>
    match tree.module? label with
    | none => misfit [member] (.unknownModule label)
    | some m =>
      (decodeAmong tree m.statements ⟨m.namespaceUri, localName⟩ [member] v).getD (misfit [member] (.unknownMember member))

/-- the data nodes of a document -/
def decode (tree : Tree) (members : List (Value × Value)) : Decoded (List DataNode) :=
  members.mapM fun (k, v) => do decodeTop tree (← memberName k) v

end YangDesign.Instance
