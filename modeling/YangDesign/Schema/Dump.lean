/-
A schema document as a value, with every default filled in.
-/
import YangDesign.Schema.Document
import YangDesign.Value

namespace YangDesign.Schema

/-- an object of members with text keys -/
def members (ms : List (String × Value)) : Value :=
  .map (ms.map fun (k, v) => (.text k, v))

/-- a text or null -/
def optionalText : Option String → Value
  | some s => .text s
  | none => .null

/-- texts as a list -/
def texts (ss : List String) : Value :=
  .list (ss.map .text)

/-- an enum as a value -/
def EnumDecl.toValue (e : EnumDecl) : Value :=
  members [("name", .text e.name), ("value", (e.value.map Value.int).getD .null),
    ("description", optionalText e.description)]

/-- a type as a value -/
def TypeRef.toValue (t : TypeRef) : Value :=
  members [("name", .text t.name), ("enums", (t.enums.map fun es => Value.list (es.map EnumDecl.toValue)).getD .null),
    ("description", optionalText t.description)]

/-- the members of a construct that has the given statements below it -/
def Construct.fields (children : Value) : Construct → List (String × Value)
  | .container => [("children", children)]
  | .list key => [("key", texts key), ("children", children)]
  | .leaf type => [("type", type.toValue)]
  | .leafList type => [("type", type.toValue)]
  | .choice => [("cases", children)]
  | .case => [("children", children)]
  | .typedef type => [("type", type.toValue)]
  | .identity bases => [("bases", texts bases)]

mutual

/-- a statement as a value -/
def Statement.toValue : Statement → Value
  | .named name description construct children =>
    members ([("name", .text name), ("description", optionalText description), ("kind", .text construct.keyword)] ++
      construct.fields (.list (Statement.toValues children)))
  | .other keyword argument => members [("kind", .text keyword), ("argument", optionalText argument)]

/-- statements as values -/
def Statement.toValues : List Statement → List Value
  | [] => []
  | s :: ss => s.toValue :: Statement.toValues ss

end

/-- a module as a value -/
def ModuleDecl.toValue (m : ModuleDecl) : Value :=
  members [("name", .text m.name), ("namespace", .text m.namespaceUri), ("prefix", .text m.modulePrefix),
    ("description", optionalText m.description), ("statements", .list (Statement.toValues m.statements))]

/-- a document as a value -/
def Document.toValue (d : Document) : Value :=
  members [("modules", .list (d.modules.map ModuleDecl.toValue))]

end YangDesign.Schema
