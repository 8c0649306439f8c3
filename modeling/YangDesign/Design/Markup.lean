/-
The written form of a design: an element for every definition, with names written as `prefix:name`.

The root declares the prefixes. The design has a prefix of its own, unless the one it asks for is reserved; a name whose
namespace has no prefix cannot be written, and neither can a text with characters that XML does not allow.
-/
import YangDesign.Design.Document
import YangDesign.Text.Quoted
import YangDesign.Xml.Char
import YangDesign.Xml.Printer
import YangDesign.Xml.Uri

namespace YangDesign.Design

open Xml

/-- namespace of the elements of a design -/
def modelDesignUri : String :=
  "http://opcfoundation.org/UA/ModelDesign.xsd"

/-- why a design cannot be written -/
inductive WriteFault where
  | forbiddenCharacter
  | brokenText (codes : List Nat)
  | oversizedNumber
  | invalidUri (uri : String)
  | invalidPrefix (label : String)
  | emptyTag
  | invalidTag (tag : String)
  | unboundNamespace (uri : String)
  deriving DecidableEq, Repr

/-- wording for a text that holds halves of pairs: where the first of them stand -/
def brokenMessage (codes : List Nat) : String :=
  let start := (codes.takeWhile fun n => (Text.charOf? n).isSome).length
  let halves := (codes.drop start).takeWhile fun n => (Text.charOf? n).isNone
  let place := match halves with
    | [half] => " " ++ Text.quotedCodes [half] ++ " in position " ++ toString start
    | _ => "s in position " ++ toString start ++ "-" ++ toString (start + halves.length - 1)
  "'utf-8' codec can't encode character" ++ place ++ ": surrogates not allowed"

/-- wording for a tag that is no name -/
def invalidTagMessage (tag : String) : String :=
  "Invalid tag name " ++ Text.quoted tag

/-- wording of a fault -/
def WriteFault.message : WriteFault → String
  | .brokenText codes => brokenMessage codes
  | .oversizedNumber => Number.digitLimitMessage ""
  | .forbiddenCharacter =>
    "All strings must be XML compatible: Unicode or ASCII, no NULL bytes or control characters"
  | .invalidUri uri => "Invalid namespace URI " ++ Text.quoted uri
  | .invalidPrefix label => "Invalid namespace prefix " ++ Text.quoted label
  | .emptyTag => "Empty tag name"
  | .invalidTag tag => invalidTagMessage tag
  | .unboundNamespace uri => "no XML prefix for namespace " ++ uri

/-- a written part or a fault -/
abbrev Written (α : Type) := Except WriteFault α

/-- a text that XML allows -/
def checkText (s : String) : Written String :=
  if isText s then .ok s else .error .forbiddenCharacter

/-- a URI to declare -/
def checkUri (uri : String) : Written Unit := do
  let _ ← checkText uri
  if Uri.isReference uri then return () else throw (.invalidUri uri)

/-- a prefix to declare -/
def checkPrefix (label : String) : Written Unit := do
  let _ ← checkText label
  if isName label.toList then return () else throw (.invalidPrefix label)

/-- a local name for an element -/
def checkTag (tag : String) : Written String := do
  let _ ← checkText tag
  if tag.isEmpty then throw .emptyTag
  if isName tag.toList then return tag else throw (.invalidTag tag)

/-- the prefix of a design that asks for none, or for a reserved one -/
def fallbackPrefix : String :=
  "design"

/-- the prefix of the design: the first that a namespace of its URI asks for -/
def ModelDocument.designPrefix (doc : ModelDocument) : String :=
  let wishes := doc.namespaces.filterMap fun n =>
    if n.uri = doc.target then n.xmlPrefix.filter (!·.isEmpty) else none
  match wishes with
  | [] => fallbackPrefix
  | label :: _ => if isReserved label then fallbackPrefix else label

/-- the prefixes of names, by namespace; the design comes first -/
def ModelDocument.prefixOf? (doc : ModelDocument) (uri : String) : Option String :=
  if uri = doc.target then some doc.designPrefix
  else if uri = baseUri then some "ua"
  else none

/-- the prefixes that the root declares -/
def ModelDocument.declarations (doc : ModelDocument) : List (String × String) := [
  ("opc", modelDesignUri), ("ua", baseUri), ("uax", typesUri), ("xsi", "http://www.w3.org/2001/XMLSchema-instance"),
  ("xsd", "http://www.w3.org/2001/XMLSchema"), (doc.designPrefix, doc.target)]

/-- the tag of an element of designs -/
def opcTag (name : String) : String :=
  "opc:" ++ name

/-- the tag of an encoded value -/
def valueTag (name : String) : Written String :=
  (checkTag name).map fun n => "uax:" ++ n

/-- an attribute whose value is a text -/
def textAttribute (key value : String) : Written (List (String × String)) :=
  (checkText value).map fun v => [(key, v)]

/-- an attribute that may be absent -/
def optionalAttribute (key : String) : Option String → Written (List (String × String))
  | some v => textAttribute key v
  | none => return []

/-- an element that holds only a text -/
def textElement (tag text : String) : Written Element :=
  (checkText text).map fun t => ⟨tag, [], some t, []⟩

/-- `prefix:name` -/
def ModelDocument.nameText (doc : ModelDocument) (n : SymbolicName) : Written String :=
  match doc.prefixOf? n.namespaceUri with
  | some label => return label ++ ":" ++ n.name
  | none => throw (.unboundNamespace n.namespaceUri)

/-- an attribute whose value is a name -/
def nameAttribute (doc : ModelDocument) (key : String) (n : SymbolicName) : Written (List (String × String)) := do
  textAttribute key (← doc.nameText n)

/-- an attribute whose value is a name that may be absent -/
def optionalName (doc : ModelDocument) (key : String) : Option SymbolicName → Written (List (String × String))
  | some n => nameAttribute doc key n
  | none => return []

/-- browse name, display name and description of a node -/
def labelElements (l : Labels) : Written (List Element) := do
  let browse ← textElement (opcTag "BrowseName") l.browse
  let display ← checkText l.display
  let description ← match l.description with
    | some d => (textElement (opcTag "Description") d).map ([·])
    | none => pure []
  return [browse, ⟨opcTag "DisplayName", [("Key", display)], some display, []⟩] ++ description

/-- a value as text, which may hold halves of pairs; decimals are written without an exponent -/
def codedText (v : Value) : Written Text.Coded :=
  match v with
  | .bool b => return .text (if b then "true" else "false")
  | .decimal d => return .text d.plainText
  | .broken codes => return .broken codes
  | v => if v.isOversized then throw .oversizedNumber else return .text v.display

/-- the text of a value for an element, which has no halves of pairs -/
def valueText (v : Value) : Written String := do
  match ← codedText v with
  | .text s => return s
  | .broken codes => throw (.brokenText codes)

/-- the element of one encoded value -/
def valueElement (typeName : String) (v : Value) : Written Element := do
  let tag ← valueTag typeName
  textElement tag (← valueText v)

/-- the default value of a variable -/
def defaultElement (d : DefaultValue) : Written Element := do
  let content ← match d.value with
    | .tuple vs => do
      let tag ← valueTag ("ListOf" ++ d.dataType.name)
      pure ⟨tag, [], none, ← vs.mapM (valueElement d.dataType.name)⟩
    | v => valueElement d.dataType.name v
  return ⟨opcTag "DefaultValue", [], none, [content]⟩

/-- one reference between nodes -/
def referenceElement (doc : ModelDocument) (r : Reference) : Written Element := do
  let type ← textElement (opcTag "ReferenceType") (← doc.nameText r.type)
  let target ← textElement (opcTag "TargetId") (← doc.nameText r.target)
  return ⟨opcTag "Reference", if r.inverse then [("IsInverse", "true")] else [], none, [type, target]⟩

/-- elements below one of their own, if there are any -/
def group (name : String) (es : List Element) : List Element :=
  if es.isEmpty then [] else [⟨opcTag name, [], none, es⟩]

/-- the references of a node -/
def referenceElements (doc : ModelDocument) (rs : List Reference) : Written (List Element) :=
  (rs.mapM (referenceElement doc)).map (group "References")

/-- one field of a data type -/
def fieldElement (f : Field) : Written Element := do
  let name ← textAttribute "Name" f.name
  let identifier ← optionalAttribute "Identifier" (f.identifier.map toString)
  let description ← match f.description with
    | some d => (textElement (opcTag "Description") d).map ([·])
    | none => pure []
  return ⟨opcTag "Field", name ++ identifier, none, description⟩

mutual

/-- the element of a member -/
def memberElement (doc : ModelDocument) : Member → Written Element
  | .variableNode labels type rank access default => do
    let name ← nameAttribute doc "SymbolicName" labels.symbolic
    let type ← optionalName doc "TypeDefinition" type
    let texts ← labelElements labels
    let value ← match default with
      | some d => (defaultElement d).map ([·])
      | none => pure []
    let access := (access.map fun a => ("AccessLevel", a.name)).toList
    return ⟨opcTag "Variable", name ++ type ++ [("ValueRank", rank.name)] ++ access, none, texts ++ value⟩
  | .objectNode labels type references children => do
    let name ← nameAttribute doc "SymbolicName" labels.symbolic
    let type ← optionalName doc "TypeDefinition" type
    let texts ← labelElements labels
    let members ← memberElements doc children
    let references ← referenceElements doc references
    return ⟨opcTag "Object", name ++ type, none, texts ++ group "Children" members ++ references⟩

/-- the elements of some members -/
def memberElements (doc : ModelDocument) : List Member → Written (List Element)
  | [] => return []
  | m :: ms => do
    let e ← memberElement doc m
    let es ← memberElements doc ms
    return e :: es

end

/-- the attributes of a definition besides its name -/
def contentAttributes (doc : ModelDocument) : Content → Written (List (String × String))
  | .dataType base _ => optionalName doc "BaseType" base
  | .objectType base isAbstract _ => do
    let base ← optionalName doc "BaseType" base
    return base ++ if isAbstract then [("IsAbstract", "true")] else []
  | .variableType base dataType rank => do
    let base ← optionalName doc "BaseType" base
    let dataType ← optionalName doc "DataType" dataType
    return base ++ dataType ++ [("ValueRank", rank.name)]
  | .referenceType base => optionalName doc "BaseType" base
  | .object type _ _ => optionalName doc "TypeDefinition" type

/-- the elements of a definition after its names -/
def contentElements (doc : ModelDocument) : Content → Written (List Element)
  | .dataType _ fields => (fields.mapM fieldElement).map (group "Fields")
  | .objectType _ _ children => (memberElements doc children).map (group "Children")
  | .object _ references children => do
    let members ← memberElements doc children
    let references ← referenceElements doc references
    return group "Children" members ++ references
  | _ => return []

/-- the element of a definition -/
def definitionElement (doc : ModelDocument) (d : Definition) : Written Element := do
  let name ← nameAttribute doc "SymbolicName" d.name
  let attributes ← contentAttributes doc d.content
  let texts ← labelElements d.labels
  let elements ← contentElements doc d.content
  return ⟨opcTag d.kind.element, name ++ attributes, none, texts ++ elements⟩

/-- the element of a namespace -/
def namespaceElement (n : Namespace) : Written Element := do
  let attributes := [
    ("Name", some n.name), ("Prefix", n.designPrefix), ("InternalPrefix", n.internalPrefix),
    ("XmlNamespace", n.xmlNamespace), ("XmlPrefix", n.xmlPrefix), ("Version", n.version),
    ("PublicationDate", n.publicationDate)]
  let attributes ← attributes.mapM fun (key, value) => optionalAttribute key value
  let uri ← checkText n.uri
  return ⟨opcTag "Namespace", attributes.flatten, some uri, []⟩

/-- the root element of a design -/
def ModelDocument.element (doc : ModelDocument) : Written Element := do
  doc.declarations.forM fun (label, uri) => do
    checkUri uri
    checkPrefix label
  let namespaces ← doc.namespaces.mapM namespaceElement
  let definitions ← doc.definitions.toList.mapM (definitionElement doc)
  let declarations := doc.declarations.map fun (label, uri) => ("xmlns:" ++ label, uri)
  return ⟨opcTag "ModelDesign", declarations ++ [("TargetNamespace", doc.target)], none,
    ⟨opcTag "Namespaces", [], none, namespaces⟩ :: definitions⟩

/-- the written form of a design -/
def ModelDocument.write (pretty : Bool) (doc : ModelDocument) : Written String :=
  doc.element.map (render pretty)

end YangDesign.Design
