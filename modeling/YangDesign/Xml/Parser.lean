/-
Reading of XML documents: the tokens are walked through with the elements that are open on a stack.

The content of an entity is read where it is first referred to, as if it stood outside of every element, and is kept for later
references. Elements nest up to a limit, to which the place of an entity counts.
-/
import YangDesign.Xml.Declaration
import YangDesign.Xml.Namespaces
import YangDesign.Xml.Token

namespace YangDesign.Xml

open Reading

/-- how deep elements may nest -/
def depthLimit : Nat := 256

/-- an element that is open, with its tag as it is written -/
structure OpenElement where
  tag : String
  head : Head
  content : Content
  deriving Repr

/-- an element that has just been opened -/
def OpenElement.start (tag : String) (head : Head) : OpenElement :=
  ⟨tag, head, .empty⟩

/-- the element once it is closed -/
def OpenElement.close (o : OpenElement) : Qualified :=
  ⟨o.head.name.1, o.head.name.2, o.head.attributes, o.content.text, o.content.children.reverse⟩

/-- what has been read: the elements that are open, the innermost first, and what stands outside of them -/
structure Walk where
  opened : List OpenElement
  outside : Content
  deriving Repr

namespace Walk

/-- nothing has been read -/
def start : Walk :=
  ⟨[], .empty⟩

/-- a change of the content of the innermost element -/
def update (f : Content → Content) (w : Walk) : Walk :=
  match w with
  | ⟨[], outside⟩ => ⟨[], f outside⟩
  | ⟨o :: os, outside⟩ => ⟨{ o with content := f o.content } :: os, outside⟩

/-- the bindings within the innermost element -/
def bindings (w : Walk) : Bindings :=
  ((w.opened.head?).map (·.head.bindings)).getD .initial

/-- one token, where `outer` elements are open around the tokens, entities may nest `depth` deep, and `entity` reads the
content of one of them within a number of elements -/
def step (d : Declared) (entity : Nat → String → Reading Content) (depth outer : Nat) (w : Walk) : Token → Reading Walk
  | .openTag tag attributes closed => do
    guard (outer + w.opened.length < depthLimit)
    let o := OpenElement.start tag (← readHead d depth w.bindings tag attributes)
    return if closed then w.update (·.addChild o.close) else { w with opened := o :: w.opened }
  | .closeTag tag =>
    match w.opened with
    | [] => failure
    | o :: os => do
      guard (o.tag = tag)
      return update (·.addChild o.close) { w with opened := os }
  | .text s _ => return w.update (·.addText s)
  | .entity name => do
    let c ← entity (outer + w.opened.length) name
    return w.update (·.append c)
  | .remark note => do
    recordIf note
    return w.update (·.addRemark)

/-- what stands outside of the elements, all of which are closed -/
def content? (w : Walk) : Option Content :=
  if w.opened.isEmpty then some w.outside else none

end Walk

/-- tokens in order -/
def walk (d : Declared) (entity : Nat → String → Reading Content) (depth outer : Nat) (ts : List Token) : Reading Content := do
  (← ts.foldlM (Walk.step d entity depth outer) .start).content?

/-- the content of an entity by `read`, or as it is known from an earlier reference -/
def remembered (name : String) (read : Reading Content) : Reading Content := do
  match (← get).contents.lookup name with
  | some (c, cost) => do
    spend cost
    return c
  | none => do
    let before := (← get).spent
    let c ← read
    modify fun p => { p with contents := (name, c, p.spent - before) :: p.contents }
    return c

/-- the content that an entity stands for within `outer` elements; entities may nest `depth` deep in it -/
def entityContent (d : Declared) : Nat → Nat → String → Reading Content
  | 0, _, _ => failure
  | depth + 1, outer, name =>
    match d.entities.lookup name with
    | none => do
      d.missing
      return .empty
    | some none => failure
    | some (some text) => remembered name do
      guard (outer < depthLimit)
      spendOn text
      walk d (entityContent d depth) depth (outer + 1) (← tokens? (Text.unifyLines text))

/-! ## Documents -/

/-- what is to be noted of the comments and processing instructions at the head of a document, and what follows them -/
def takeRemarks : Nat → List Char → List (Option Note) × List Char
  | 0, cs => ([], cs)
  | fuel + 1, cs =>
    match takeRemark? (skipSpace cs) with
    | some (note, rest) =>
      let (notes, rest) := takeRemarks fuel rest
      (note :: notes, rest)
    | none => ([], skipSpace cs)

/-- the document type declaration, if there is one, and the rest -/
def takeType (cs : List Char) : Option (Doctype × List Char) :=
  match after? "<!DOCTYPE".toList cs with
  | some rest => takeDoctype? rest
  | none => some (⟨false, []⟩, cs)

/-- the root element of a document after its declaration -/
def readRoot (isStandalone : Bool) (cs : List Char) : Reading Qualified := do
  let (notes, cs) := takeRemarks cs.length cs
  notes.forM recordIf
  let (doctype, cs) ← takeType cs
  let d ← Declared.ofDoctype isStandalone doctype
  let tokens ← tokens? cs
  guard (isDocument 0 false tokens)
  let [root] := (← walk d (entityContent d nestingLimit) nestingLimit 0 tokens).children | failure
  return root

/-- the root element of a document -/
def parse? (s : String) : Option Qualified := do
  let (isStandalone, cs) ← openDocument? s
  (readRoot isStandalone cs).run?

end YangDesign.Xml
