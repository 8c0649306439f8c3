/-
Document type declarations as they are written: entities, elements, attributes with their types and default values, and
notations.

Of a content model only the form matters. An entity has a text, or stands for something outside of the document; the text
of an entity breaks off where it refers to a parameter entity.
-/
import YangDesign.Xml.Piece

namespace YangDesign.Xml

/-- what an entity stands for: a text, with the parameter entity at which it breaks off, or something outside -/
inductive Meaning where
  | inside (text : List Char) (cutAt : Option String)
  | outside
  deriving DecidableEq, Repr

/-- what the value of an attribute is: any text, an identifier, names, or words of characters that stand in names -/
inductive AttributeType where
  | text
  | id
  | name
  | names
  | word
  | words
  deriving DecidableEq, Repr

/-- a declared attribute; `repeats` tells whether its type lists something twice -/
structure AttributeDeclaration where
  name : String
  type : AttributeType
  repeats : Bool
  value : Option (List Part)
  deriving DecidableEq, Repr

/-- what stands in a document type declaration -/
inductive Declaration where
  | entity (name : String) (meaning : Meaning)
  | parameter (name : String) (meaning : Meaning)
  | element (name : String)
  | attributes (element : String) (attributes : List AttributeDeclaration)
  | format (name : String)
  | insertion (name : String)
  | remark (note : Option Note)
  deriving DecidableEq, Repr

/-! ## Entities and notations -/

/-- the place of something outside: a literal, and the rest -/
def takePlace? (cs : List Char) : Option (List Char × List Char) := do
  let (place, cs) ← takeLiteral? cs
  guard (place.all isChar)
  return (place, cs)

/-- what follows a public identifier -/
def skipPublic? (cs : List Char) : Option (List Char) := do
  let (name, cs) ← takeLiteral? (← needSpace? cs)
  guard (name.all isPublicChar)
  return cs

/-- the place of something outside with its keyword, and the rest -/
def takeExternal? (cs : List Char) : Option (List Char × List Char) :=
  match after? "SYSTEM".toList cs, after? "PUBLIC".toList cs with
  | some cs, _ => do takePlace? (← needSpace? cs)
  | none, some cs => do takePlace? (← needSpace? (← skipPublic? cs))
  | none, none => none

/-- the text that a literal declares: references to characters are replaced, those to entities are kept -/
def takeMeaning? : Nat → List Char → Option Meaning
  | _, [] => some (.inside [] none)
  | 0, _ => none
  | fuel + 1, c :: cs =>
    let more (before : List Char) (rest : List Char) := do
      match ← takeMeaning? fuel rest with
      | .inside text cutAt => return .inside (before ++ text) cutAt
      | .outside => none
    match c, cs with
    | '&', '#' :: cs => do
      let (r, rest) ← takeNumeric? cs
      more [r] rest
    | '&', cs => do
      let (name, rest) ← takeEntityName? cs
      more ('&' :: name.toList ++ [';']) rest
    | '%', cs => (takeEntityName? cs).map fun (name, _) => .inside [] (some name)
    | c, cs =>
      let run := cs.takeWhile fun d => d != '&' && d != '%'
      more (c :: run) (cs.drop run.length)

/-- what the literal of an entity stands for -/
def literalMeaning? (cs : List Char) : Option Meaning := do
  guard (cs.all isChar)
  takeMeaning? cs.length cs

/-- what follows the place of an entity, with the notation of its data if it names one -/
def skipFormat? (cs : List Char) : Option (List Char) :=
  match after? "NDATA".toList (skipSpace cs) with
  | none => some cs
  | some rest => do
    let _ ← needSpace? cs
    let rest ← needSpace? rest
    return ((takeName? rest).map (·.2)).getD rest

/-- what an entity stands for, and the rest; only one that stands in content can have data of a notation -/
def takeEntityValue? (isParameter : Bool) (cs : List Char) : Option (Meaning × List Char) :=
  match takeLiteral? cs with
  | some (value, cs) => do return (← literalMeaning? value, cs)
  | none => do
    let (place, cs) ← takeExternal? cs
    guard !(place.contains '#')
    return (.outside, ← if isParameter then some cs else skipFormat? cs)

/-- the end of a declaration -/
def takeEnd? (cs : List Char) : Option (List Char) :=
  after? ['>'] (skipSpace cs)

/-- an entity after its keyword, and the rest -/
def takeEntity? (cs : List Char) : Option (Declaration × List Char) := do
  let cs ← needSpace? cs
  let (isParameter, cs) ← match cs with
    | '%' :: cs => (needSpace? cs).map (true, ·)
    | cs => some (false, cs)
  let (name, cs) ← takeName? cs
  let (meaning, cs) ← takeEntityValue? isParameter (← needSpace? cs)
  return (if isParameter then .parameter name meaning else .entity name meaning, ← takeEnd? cs)

/-- what follows a public identifier and, if there is one, the place after it -/
def skipPublicPlace? (cs : List Char) : Option (List Char) := do
  let cs ← skipPublic? cs
  if (skipSpace cs).head?.any isQuote then (takePlace? (← needSpace? cs)).map (·.2) else return cs

/-- a notation after its keyword, and the rest -/
def takeFormat? (cs : List Char) : Option (Declaration × List Char) := do
  let (name, cs) ← takeName? (← needSpace? cs)
  let cs ← needSpace? cs
  let cs ← match after? "PUBLIC".toList cs with
    | some cs => skipPublicPlace? cs
    | none => (takeExternal? cs).map (·.2)
  return (.format name, ← takeEnd? cs)

/-! ## Elements -/

/-- how deep the groups of a content model may nest -/
def groupLimit : Nat := 256

/-- what follows the mark that tells how often a part of a content model occurs, if there is one -/
def skipOccurrence : List Char → List Char
  | c :: cs => if c = '?' || c = '*' || c = '+' then cs else c :: cs
  | [] => []

mutual

/-- what follows the groups of a content model that are open, each with the mark between its parts, from before a part on -/
def skipParts? : Nat → List (Option Char) → List Char → Option (List Char)
  | 0, _, _ => none
  | fuel + 1, groups, cs =>
    match skipSpace cs with
    | '(' :: cs => if groups.length < groupLimit then skipParts? fuel (none :: groups) cs else none
    | cs => do
      let (_, cs) ← takeName? cs
      skipMarks? fuel groups (skipOccurrence cs)

/-- the same from after a part on -/
def skipMarks? : Nat → List (Option Char) → List Char → Option (List Char)
  | 0, _, _ => none
  | _, [], cs => some cs
  | fuel + 1, mark :: groups, cs =>
    match skipSpace cs with
    | ')' :: cs => skipMarks? fuel groups (skipOccurrence cs)
    | c :: cs => if (c = '|' || c = ',') && (mark.getD c) = c then skipParts? fuel (some c :: groups) cs else none
    | [] => none

end

/-- what follows the elements that may stand among text, from before the mark of one of them on -/
def skipMixed? : Nat → List Char → Option (List Char)
  | 0, _ => none
  | fuel + 1, cs =>
    match skipSpace cs with
    | '|' :: cs => do
      let (_, cs) ← takeName? (skipSpace cs)
      skipMixed? fuel cs
    | cs => after? ")*".toList cs

/-- what follows a content model -/
def skipModel? (cs : List Char) : Option (List Char) :=
  match after? "EMPTY".toList cs, after? "ANY".toList cs, cs with
  | some cs, _, _ => some cs
  | none, some cs, _ => some cs
  | none, none, '(' :: cs =>
    match after? "#PCDATA".toList (skipSpace cs) with
    | some cs =>
      match skipSpace cs with
      | ')' :: '*' :: rest => some rest
      | ')' :: rest => some rest
      | cs => skipMixed? (cs.length + 1) cs
    | none => skipParts? (cs.length + 1) [none] cs
  | none, none, _ => none

/-- an element after its keyword, and the rest -/
def takeElement? (cs : List Char) : Option (Declaration × List Char) := do
  let (name, cs) ← takeName? (← needSpace? cs)
  return (.element name, ← takeEnd? (← skipModel? (← needSpace? cs)))

/-! ## Attributes -/

/-- the keywords of types; where one begins with another it comes first -/
def typeKeywords : List (String × AttributeType) := [
  ("CDATA", .text), ("IDREFS", .names), ("IDREF", .name), ("ID", .id), ("ENTITY", .name), ("ENTITIES", .names),
  ("NMTOKENS", .words), ("NMTOKEN", .word)]

/-- the members of a list in which vertical lines stand between them, up to the closing bracket, and the rest -/
def takeListed? (member? : List Char → Option (String × List Char)) : Nat → List Char → Option (List String × List Char)
  | 0, _ => none
  | fuel + 1, cs => do
    let (name, cs) ← member? (skipSpace cs)
    match skipSpace cs with
    | ')' :: rest => return ([name], rest)
    | '|' :: rest => do
      let (names, rest) ← takeListed? member? fuel rest
      return (name :: names, rest)
    | _ => none

/-- whether something stands in a list twice -/
def hasRepeated : List String → Bool
  | [] => false
  | s :: ss => ss.contains s || hasRepeated ss

/-- a list after its opening bracket: whether something stands there twice, and the rest -/
def takeChoice? (member? : List Char → Option (String × List Char)) (cs : List Char) : Option (Bool × List Char) :=
  (takeListed? member? (cs.length + 1) cs).map fun (names, rest) => (hasRepeated names, rest)

/-- a type, whether it lists something twice, and the rest -/
def takeType? (cs : List Char) : Option (AttributeType × Bool × List Char) :=
  match typeKeywords.findSome? fun (key, type) => (after? key.toList cs).map (type, ·) with
  | some (type, rest) => some (type, false, rest)
  | none =>
    match after? "NOTATION".toList cs, cs with
    | some cs, _ => do
      let ('(' :: cs) ← needSpace? cs | none
      return (.name, ← takeChoice? takeName? cs)
    | none, '(' :: cs => (takeChoice? takeWord? cs).map (.words, ·)
    | none, _ => none

/-- the default value of an attribute, if it has one, and the rest -/
def takeDefault? (cs : List Char) : Option (Option (List Part) × List Char) :=
  match after? "#REQUIRED".toList cs, after? "#IMPLIED".toList cs with
  | some cs, _ => some (none, cs)
  | none, some cs => some (none, cs)
  | none, none => do
    let cs ← match after? "#FIXED".toList cs with
      | some cs => needSpace? cs
      | none => some cs
    let (value, cs) ← takeLiteral? cs
    return (some (← parts? value), cs)

/-- one attribute, and the rest -/
def takeDeclaredAttribute? (cs : List Char) : Option (AttributeDeclaration × List Char) := do
  let (name, cs) ← takeName? cs
  let (type, repeats, cs) ← takeType? (← needSpace? cs)
  let (value, cs) ← takeDefault? (← needSpace? cs)
  guard (cs.head?.any fun c => isSpace c || c = '>')
  return (⟨name, type, repeats, value⟩, skipSpace cs)

/-- all attributes up to the end of their declaration, and the rest -/
def takeDeclaredAttributes? : Nat → List Char → Option (List AttributeDeclaration × List Char)
  | _, '>' :: rest => some ([], rest)
  | 0, _ => none
  | fuel + 1, cs => do
    let (a, cs) ← takeDeclaredAttribute? cs
    let (as, cs) ← takeDeclaredAttributes? fuel cs
    return (a :: as, cs)

/-- a declaration of attributes after its keyword, and the rest -/
def takeAttributeList? (cs : List Char) : Option (Declaration × List Char) := do
  let (element, cs) ← takeName? (← needSpace? cs)
  let (as, cs) ← takeDeclaredAttributes? cs.length (skipSpace cs)
  return (.attributes element as, cs)

/-! ## The whole -/

/-- the keywords of declarations, each with what follows it -/
def declarationKeywords : List (String × (List Char → Option (Declaration × List Char))) := [
  ("<!ENTITY", takeEntity?), ("<!ELEMENT", takeElement?), ("<!ATTLIST", takeAttributeList?), ("<!NOTATION", takeFormat?)]

/-- one declaration, and the rest -/
def takeDeclared? (cs : List Char) : Option (Declaration × List Char) :=
  match cs with
  | '%' :: cs => (takeEntityName? cs).map fun (name, rest) => (.insertion name, rest)
  | cs =>
    match declarationKeywords.findSome? fun (key, take?) => (after? key.toList cs).map take? with
    | some found => found
    | none => (takeRemark? cs).map fun (note, rest) => (.remark note, rest)

/-- declarations up to something that is none, and the rest -/
def takeAllDeclared? : Nat → List Char → Option (List Declaration × List Char)
  | 0, _ => none
  | fuel + 1, cs =>
    let cs := skipSpace cs
    if cs.head?.any fun c => c = '<' || c = '%' then do
      let (d, cs) ← takeDeclared? cs
      let (ds, cs) ← takeAllDeclared? fuel cs
      return (d :: ds, cs)
    else some ([], cs)

/-- the declarations that a text consists of -/
def declarations? (cs : List Char) : Option (List Declaration) := do
  let (ds, []) ← takeAllDeclared? (cs.length + 1) cs | none
  return ds

/-- a document type declaration: whether it names something outside, and what it declares -/
structure Doctype where
  isExternal : Bool
  declarations : List Declaration
  deriving DecidableEq, Repr

/-- what follows the place that a document type declaration names, if it names one -/
def takeSubsetPlace? (cs : List Char) : Option (Bool × List Char) :=
  if (after? "SYSTEM".toList cs).isSome || (after? "PUBLIC".toList cs).isSome then
    (takeExternal? cs).map fun (_, cs) => (true, cs)
  else some (false, cs)

/-- a document type declaration after its keyword, and the rest -/
def takeDoctype? (cs : List Char) : Option (Doctype × List Char) := do
  let (_, cs) ← takeName? (← needSpace? cs)
  let (isExternal, cs) ← takeSubsetPlace? (skipSpace cs)
  let (ds, cs) ← match skipSpace cs with
    | '[' :: cs => do
      let (ds, ']' :: cs) ← takeAllDeclared? (cs.length + 1) cs | none
      pure (ds, cs)
    | cs => some ([], cs)
  return (⟨isExternal, ds⟩, ← takeEnd? cs)

end YangDesign.Xml
