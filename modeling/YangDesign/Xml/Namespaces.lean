/-
Namespaces: every prefix stands for the namespace that the nearest declaration gives it, and a start tag is read into an
element with its name and those of its attributes in namespaces.

What breaks the rules of namespaces is noted only: a declaration that is not allowed counts for nothing, and a name whose prefix
is not declared is kept as it is written.
-/
import YangDesign.Xml.Declared
import YangDesign.Xml.Uri

namespace YangDesign.Xml

open Reading

/-- namespace of the prefix `xml` -/
def xmlUri : String :=
  "http://www.w3.org/XML/1998/namespace"

/-- namespace of declarations -/
def xmlnsUri : String :=
  "http://www.w3.org/2000/xmlns/"

/-- prefixes with their namespaces, the nearest declaration first; the empty prefix is the default -/
abbrev Bindings := List (String × String)

/-- the bindings outside of every element -/
def Bindings.initial : Bindings :=
  [("xml", xmlUri), ("", "")]

/-! ## Names -/

/-- a name as it is written: a prefix, empty if there is none, and a local part -/
structure WrittenName where
  label : String
  localName : String
  deriving DecidableEq, Repr

namespace WrittenName

/-- the parts before and after the first colon -/
def split (s : String) : WrittenName :=
  match s.toList.dropWhile (· != ':') with
  | [] => ⟨"", s⟩
  | _ :: localName => ⟨.ofList (s.toList.takeWhile (· != ':')), .ofList localName⟩

/-- the name as it is written -/
def text (n : WrittenName) : String :=
  if n.label.isEmpty then n.localName else n.label ++ ":" ++ n.localName

/-- the parts of a name; one that does not consist of one name or two has no prefix, which is noted -/
def read (s : String) : Reading WrittenName := do
  let n := split s
  if n.text = s && isName n.localName.toList && (n.label.isEmpty || isName n.label.toList) then return n
  record .error
  return ⟨"", s⟩

/-- the prefix that an attribute declares -/
def declared? (n : WrittenName) : Option String :=
  if n.label = "xmlns" then some n.localName else if n.label = "" && n.localName = "xmlns" then some "" else none

/-- the namespace and the local part, with a prefix that is not declared noted and kept -/
def qualify (bs : Bindings) (n : WrittenName) : Reading (String × String) :=
  match bs.lookup n.label with
  | some uri => return (uri, n.localName)
  | none => do
    record .error
    return ("", n.text)

/-- the same for an attribute, which is in no namespace if it has no prefix -/
def qualifyAttribute (bs : Bindings) (n : WrittenName) : Reading (String × String) :=
  if n.label.isEmpty then return ("", n.localName) else n.qualify bs

end WrittenName

/-! ## Declarations -/

/-- whether a namespace is bound by its declaration, and what is to be noted of it -/
def judge (label uri : String) : Bool × Option Note :=
  if label = "xml" then (false, if uri = xmlUri then none else some .error)
  else if label = "xmlns" || uri = xmlUri || uri = xmlnsUri then (false, some .error)
  else if uri = "" then (label = "", if label = "" then none else some .error)
  else if !Uri.isReference uri then (true, some .error)
  else (true, if label = "" && !Uri.isAbsolute uri.toList then some .warning else none)

/-- an attribute of a start tag with its value -/
abbrev Given := WrittenName × String

/-- an attribute that is given, and the note of what it declares -/
def readGiven (d : Declared) (depth : Nat) (element : String) (a : String × List Part) : Reading Given := do
  let name ← WrittenName.read a.1
  let value := String.ofList (← d.value depth (d.typeOf element a.1) a.2)
  if name = ⟨"xml", "space"⟩ && value != "default" && value != "preserve" then record .warning
  if let some label := name.declared? then recordIf (judge label value).2
  return (name, value)

/-- the namespaces that attributes bind; none is bound twice -/
def boundBy (given : List Given) : Reading Bindings := do
  let bs := given.filterMap fun (name, value) => do
    let label ← name.declared?
    if (judge label value).1 then some (label, value) else none
  guard !(hasRepeated (bs.map (·.1)))
  return bs

/-- the namespaces that default values bind besides -/
def boundByDefault (bound : Bindings) (defaults : List Given) : Bindings :=
  defaults.filterMap fun (name, value) => do
    let label ← name.declared?
    if label = "xml" || (bound.lookup label).isSome then none else some (label, value)

/-! ## Attributes -/

/-- an attribute in its namespace -/
structure Placed where
  name : WrittenName
  qualified : String × String
  value : String
  deriving DecidableEq, Repr

/-- one more attribute that is given -/
def placeGiven (bs : Bindings) (placed : List Placed) (g : Given) : Reading (List Placed) := do
  if g.1.declared?.isSome then return placed
  guard !(placed.any (·.name == g.1))
  let key ← g.1.qualifyAttribute bs
  if placed.any (·.qualified == key) then record .error
  return placed ++ [⟨g.1, key, g.2⟩]

/-- one more attribute with its default value, unless it is given -/
def placeDefault (bs : Bindings) (placed : List Placed) (g : Given) : Reading (List Placed) :=
  if placed.any (·.name == g.1) then return placed else placeGiven bs placed g

/-- identifiers among attributes -/
def readIds (d : Declared) (element : String) (placed : List Placed) : Reading Unit :=
  placed.forM fun a => do
    if a.name = ⟨"xml", "id"⟩ then
      if !isName (skipSpace (a.value.toList.reverse.dropWhile isSpace).reverse) then record .error
      claimId a.value
    else if d.typeOf element a.name.text = .id then claimId a.value

/-! ## Start tags -/

/-- the head of an element: its name and attributes in namespaces, and the bindings within it -/
structure Head where
  bindings : Bindings
  name : String × String
  attributes : List ((String × String) × String)
  deriving DecidableEq, Repr

/-- a start tag under some bindings -/
def readHead (d : Declared) (depth : Nat) (bs : Bindings) (tag : String) (attributes : List (String × List Part)) :
    Reading Head := do
  let name ← WrittenName.read tag
  let given ← attributes.mapM (readGiven d depth tag)
  let defaults := (d.defaults tag).map fun (key, value) => (WrittenName.split key, String.ofList value)
  let bound ← boundBy given
  let bs := bound ++ boundByDefault bound defaults ++ bs
  let placed ← given.foldlM (placeGiven bs) []
  let placed ← defaults.foldlM (placeDefault bs) placed
  let key ← name.qualify bs
  readIds d tag placed
  return ⟨bs, key, placed.map fun a => (a.qualified, a.value)⟩

end YangDesign.Xml
