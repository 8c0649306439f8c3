/-
Reading a written design back, in short.

Elements are recognized by their local names. Definitions count when they stand directly below the root, and so do
namespaces when they stand in a list of namespaces there. A name with a colon in its local part cannot be recognized.
-/
import YangDesign.Design.Markup
import YangDesign.Design.Summary
import YangDesign.Text.Blank
import YangDesign.Text.Form
import YangDesign.Xml.Parser

namespace YangDesign.Design

open Xml

/-- why a text is no design -/
inductive ReadFault where
  | notXml
  | unexpectedRoot (localName : String)
  | invalidTag (tag : String)
  deriving DecidableEq, Repr

/-- wording of a fault -/
def ReadFault.message : ReadFault → String
  | .notXml => "XML parsing error"
  | .unexpectedRoot localName => "Expected ModelDesign root element, got " ++ localName
  | .invalidTag tag => invalidTagMessage tag

/-- a local name without a colon -/
def checkLocalName (localName : String) : Except ReadFault Unit :=
  if localName.contains ':' then .error (.invalidTag localName) else .ok ()

/-- the kind of definition that an element is -/
def kindOf? (localName : String) : Option DefinitionKind :=
  DefinitionKind.all.find? (·.element == localName)

/-- the namespaces that an element lists -/
def listedNamespaces (q : Qualified) : List (String × String) :=
  if q.localName = "Namespaces" then q.children.map fun n => ((n.attribute? "Name").getD "", Text.trim n.text) else []

/-- the local part of the symbolic name of an element -/
def symbolicLocal (q : Qualified) : String :=
  (Text.splitQualified ((q.attribute? "SymbolicName").getD "")).2

/-- the design that a root element describes, in short -/
def summarize (root : Qualified) : Except ReadFault Summary :=
  if root.uri = modelDesignUri && root.localName = "ModelDesign" then do
    root.children.forM fun q => checkLocalName q.localName
    let definitions := root.children.filterMap fun q => (kindOf? q.localName).map (·, symbolicLocal q)
    return ⟨(root.attribute? "TargetNamespace").getD "", .ofList (root.children.flatMap listedNamespaces),
      definitions.map (·.1), definitions.map (·.2)⟩
  else do
    checkLocalName root.localName
    throw (.unexpectedRoot root.localName)

/-- a written design in short -/
def readSummary (s : String) : Except ReadFault Summary :=
  match parse? s with
  | some root => summarize root
  | none => .error .notXml

end YangDesign.Design
