/-
Translation of a resolved schema, with or without instance data, into a design.

Modules are walked in order of declaration and statements in document order. Of the data at the top only that of containers
becomes objects; other data is skipped with a warning.
-/
import YangDesign.Translate.Settings
import YangDesign.Translate.Shape

namespace YangDesign.Translate

open Design Instance Schema

/-- statements at the top of a module that carry no structure -/
def ignoredStatements : List String := [
  "namespace", "prefix", "import", "include", "organization", "contact", "description", "revision", "feature",
  "reference", "yang-version", "grouping", "augment", "extension", "deviation"]

/-- the namespaces of a design: the OPC UA vocabulary and the design itself -/
def designNamespaces (s : Settings) : List Namespace := [
  ⟨"OpcUa", baseUri, some "1.03", some "2013-12-02T00:00:00Z", some "Opc.Ua", some "Opc.Ua.Server", some typesUri,
    some "OpcUa"⟩,
  ⟨"YangToOpcUa_" ++ s.designName, s.target, some "0.1", some s.timestamp, some s.designName, some s.designName,
    some s.target, some s.designName⟩]

/-- a warning if there is data for a node that is not translated with it -/
def skipData {α : Type} (n : Node) (select : DataNode → Option α) (data : List DataNode) : Translator Unit :=
  if (findChild? select n.head.name data).isSome then note (.skippedTopLevel n.label) else return ()

/-- a container at the top, and the object for its data when the container is new -/
def translateContainer (n : Node) (data : List DataNode) : Translator Unit := do
  let name ← nameFor (ownerOf n.head) "ContainerType"
  let known ← isRegistered .objectType name
  let _ ← containerType n
  match findChild? DataNode.containerChildren? n.head.name data with
  | some ds => if known then return () else let _ ← containerInstance n name ds
  | none => return ()

/-- one statement at the top of a module -/
def translateStatement (tree : Tree) (moduleName : String) (data : List DataNode) (n : Node) : Translator Unit :=
  match n.kind with
  | .other keyword _ =>
    if ignoredStatements.contains keyword then note (.ignoredInModule keyword moduleName)
    else unsupported (.statement keyword) n.head.path
  | .identity bases => do
    let _ ← translateIdentity tree ⟨n.head, bases⟩
  | .container => translateContainer n data
  | .typedef type => do
    let _ ← translateTypedef type
  | .leaf type => do
    let _ ← leafType n.head type
    skipData n DataNode.leafValue? data
  | .leafList type => do
    let _ ← leafListType n.head type
    skipData n DataNode.leafListValues? data
  | .list _ => do
    let _ ← listTypes n
    skipData n DataNode.listEntries? data
  | .choice => do
    let _ ← choiceType n
  | .case => unsupported (.statement n.kind.title) n.head.path

/-- a module -/
def translateModule (tree : Tree) (data : List DataNode) (m : Module) : Translator Unit := do
  note (.processingModule m.name)
  m.statements.forM (translateStatement tree m.name data)

/-- all modules of a schema -/
def translateTree (tree : Tree) (data : List DataNode) : Translator Unit := do
  tree.modules.forM (translateModule tree data)
  let p ← get
  note (.generated p.document.size p.registry.size)

/-- the outcome of translating a schema, and the state reached -/
def run (s : Settings) (tree : Tree) (data : List DataNode) : Except Failure Unit × Progress :=
  let document := ModelDocument.new s.target (designNamespaces s)
  (translateTree tree (if s.materialize then data else [])).run (.start document)

/-- the design for a schema and its instance data -/
def translate (s : Settings) (tree : Tree) (data : List DataNode) : Except Failure ModelDocument :=
  match run s tree data with
  | (.ok (), p) => .ok p.document
  | (.error e, _) => .error e

end YangDesign.Translate
