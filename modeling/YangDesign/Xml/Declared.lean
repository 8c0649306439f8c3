/-
What a document type declaration declares: entities, and the types and default values of attributes.

Of several declarations of one thing the first counts. A reference to an entity that is not declared is not well formed if all
declarations are known, and is only noted if some may stand outside of the document.
-/
import YangDesign.Text.Lines
import YangDesign.Xml.Doctype
import YangDesign.Xml.Reading

namespace YangDesign.Xml

open Reading

/-- the texts of entities by name; none for something outside of the document -/
abbrev Texts := List (String × Option (List Char))

/-- how deep entities may nest -/
def nestingLimit : Nat := 20

/-- an attribute that is declared for an element, with its default value -/
structure AttributeRule where
  element : String
  name : String
  type : AttributeType
  value : Option (List Char)
  deriving DecidableEq, Repr

/-- what is declared; `mayLack` tells that some declarations may be outside of the document -/
structure Declared where
  isStandalone : Bool
  mayLack : Bool
  entities : Texts
  parameters : Texts
  elements : List String
  formats : List String
  rules : List AttributeRule
  deriving DecidableEq, Repr

namespace Declared

/-- nothing is declared -/
def initial (isStandalone : Bool) : Declared :=
  ⟨isStandalone, false, [], [], [], [], []⟩

/-- an entity that is not declared -/
def missing (d : Declared) : Reading Unit := do
  guard (d.mayLack && !d.isStandalone)
  record .error

/-- the rule for an attribute, by the names as they are written -/
def rule? (d : Declared) (element name : String) : Option AttributeRule :=
  d.rules.find? fun r => r.element == element && r.name == name

/-- the type of an attribute, which is text unless another one is declared -/
def typeOf (d : Declared) (element name : String) : AttributeType :=
  ((d.rule? element name).map (·.type)).getD .text

/-- the attributes of an element that have a default value -/
def defaults (d : Declared) (element : String) : List (String × List Char) :=
  d.rules.filterMap fun r => if r.element == element then r.value.map (r.name, ·) else none

end Declared

/-! ## Values of attributes -/

/-- the characters that an entity stands for in the value of an attribute -/
def Declared.replacement (d : Declared) : Nat → String → Reading (List Char)
  | 0, _ => failure
  | depth + 1, name =>
    match d.entities.lookup name with
    | none => do
      d.missing
      return []
    | some none => failure
    | some (some text) => do
      spendOn text
      let values ← (← parts? text).mapM fun
        | .text cs => pure cs
        | .entity name => d.replacement depth name
      return values.flatten

/-- blanks at both ends dropped, and single ones between words -/
def collapse (cs : List Char) : List Char :=
  [' '].intercalate ((Text.splitAtEach ' ' cs).filter (!·.isEmpty))

/-- the value of an attribute of a type; entities may nest `depth` deep in it -/
def Declared.value (d : Declared) (depth : Nat) (type : AttributeType) (parts : List Part) : Reading (List Char) := do
  let values ← parts.mapM fun
    | .text cs => pure cs
    | .entity name => d.replacement depth name
  return if type = .text then values.flatten else collapse values.flatten

/-- a name in which colons may stand -/
def isColonName : List Char → Bool
  | [] => false
  | c :: cs => isColonNameStart c && cs.all isColonNamePart

/-- whether a value is one of a type -/
def AttributeType.allows (type : AttributeType) (value : List Char) : Bool :=
  match type with
  | .text => true
  | .id | .name => isColonName value
  | .names => (Text.splitAtEach ' ' value).all isColonName
  | .word => !value.isEmpty && value.all isColonNamePart
  | .words => (Text.splitAtEach ' ' value).all fun word => !word.isEmpty && word.all isColonNamePart

/-! ## Declarations -/

/-- the texts that may be declared for an entity which every document has: its character, unless that is markup, or a reference
to it -/
def isOwnText (c : Char) (text : List Char) : Bool :=
  let hex := Nat.toDigits 16 c.toNat ++ [';']
  (text = [c] && c != '<' && c != '&') || text = "&#".toList ++ (toString c.toNat).toList ++ [';'] ||
    (text.take 3 = "&#x".toList && (text.drop 3).map Char.toLower = hex)

/-- the text of an entity; where it breaks off, it refers to a parameter entity that is not declared -/
def Declared.textOf (d : Declared) : Meaning → Reading (Declared × Option (List Char))
  | .outside => pure (d, none)
  | .inside text none => pure (d, some text)
  | .inside text (some name) => do
    guard ((d.parameters.lookup name).isNone)
    let d := { d with mayLack := true }
    d.missing
    return (d, some text)

/-- a name that holds a colon where none should stand -/
def recordColon (name : String) : Reading Unit := do
  if name.contains ':' then record .error

/-- an attribute of an element -/
def Declared.addRule (element : String) (d : Declared) (a : AttributeDeclaration) : Reading Declared := do
  if a.repeats then record .error
  let value ← a.value.mapM (d.value nestingLimit a.type)
  if a.name = "xml:id" && a.type != .id then record .error
  if value.any (!a.type.allows ·) then record .error
  if (d.rule? element a.name).isSome then
    record .warning
    return d
  if a.type = .id && d.rules.any (fun r => r.element == element && r.type == .id) then record .error
  return { d with rules := d.rules ++ [⟨element, a.name, a.type, value⟩] }

/-- one declaration; `insert` reads the text of a parameter entity -/
def Declared.add (insert : List Char → Declared → Reading Declared) (d : Declared) : Declaration → Reading Declared
  | .entity name meaning => do
    recordColon name
    let (d, text) ← d.textOf meaning
    if let some c := ownEntities.lookup name then guard (text.any (isOwnText c))
    return { d with entities := d.entities ++ [(name, text)] }
  | .parameter name meaning => do
    recordColon name
    let (d, text) ← d.textOf meaning
    return { d with parameters := d.parameters ++ [(name, text)] }
  | .element name => do
    if d.elements.contains name then record .error
    return { d with elements := name :: d.elements }
  | .attributes element as => as.foldlM (addRule element) d
  | .format name => do
    recordColon name
    if d.formats.contains name then record .error
    return { d with formats := name :: d.formats }
  | .insertion name => do
    let d := { d with mayLack := true }
    match d.parameters.lookup name with
    | none => do
      d.missing
      return d
    | some none => do
      record .warning
      return d
    | some (some text) => do
      spendOn text
      insert text d
  | .remark note => do
    recordIf note
    return d

/-- declarations in order; parameter entities may nest `depth` deep in them -/
def Declared.addAll : Nat → List Declaration → Declared → Reading Declared
  | 0, ds, d => ds.foldlM (Declared.add fun _ _ => failure) d
  | depth + 1, ds, d =>
    ds.foldlM (Declared.add fun text d => do Declared.addAll depth (← declarations? (Text.unifyLines text)) d) d

/-- what a document declares -/
def Declared.ofDoctype (isStandalone : Bool) (doctype : Doctype) : Reading Declared :=
  Declared.addAll nestingLimit doctype.declarations { Declared.initial isStandalone with mayLack := doctype.isExternal }

end YangDesign.Xml
