/-
What an element holds, with all names in namespaces.

Only the text before the first child, comment or processing instruction is kept.
-/

namespace YangDesign.Xml

/-- an element with its name and those of its attributes in namespaces; a name whose prefix has no namespace is kept as it is
written -/
structure Qualified where
  uri : String
  localName : String
  attributes : List ((String × String) × String)
  text : String
  children : List Qualified
  deriving Repr

/-- the value of an attribute without a prefix -/
def Qualified.attribute? (q : Qualified) (name : String) : Option String :=
  q.attributes.lookup ("", name)

/-- the text and the children that have been read, the last child first; `complete` tells that no text can be added -/
structure Content where
  text : String
  complete : Bool
  children : List Qualified
  deriving Repr

namespace Content

/-- nothing -/
def empty : Content :=
  ⟨"", false, []⟩

/-- more text -/
def addText (c : Content) (s : String) : Content :=
  if c.complete then c else { c with text := c.text ++ s }

/-- a comment or processing instruction -/
def addRemark (c : Content) : Content :=
  { c with complete := true }

/-- a child -/
def addChild (c : Content) (q : Qualified) : Content :=
  { c with complete := true, children := q :: c.children }

/-- further content -/
def append (c more : Content) : Content :=
  let c := c.addText more.text
  { c with complete := c.complete || more.complete, children := more.children ++ c.children }

end Content

end YangDesign.Xml
