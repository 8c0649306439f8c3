/-
The check of a raw value as a schema document.

The `kind` of a statement selects what is expected of it. Every fault is reported, members of an object in the order in
which they are declared and unknown members after them. Rules over several parts, such as distinct module names, are checked
once all parts are sound. Statements are nested to a limited depth, and none holds itself.
-/
import YangDesign.Input.Checked
import YangDesign.Schema.Document

namespace YangDesign.Schema

open Input Input.Checked Text

/-- an optional text -/
def description (ms : Members) : Checked (Option String) :=
  defaulting "description" none (optional text) ms

/-- one `enum` -/
def checkEnum : Value → Checked EnumDecl :=
  object "EnumModel" fun ms =>
    closed ["name", "value", "description"] ms
      (EnumDecl.mk <$> required "name" filledText ms <*> defaulting "value" none (optional integer) ms <*> description ms)

/-- a type given by an object -/
def checkTypeObject (ms : Members) : Checked TypeRef :=
  (closed ["name", "enums", "description"] ms
      (TypeRef.mk <$> required "name" (textOf .qualified) ms <*>
        defaulting "enums" none (optional (listOf checkEnum)) ms <*> description ms)).andThen fun t =>
    refusedIf (t.name == "enumeration" && (t.enums.getD []).isEmpty) (.rejected .enumerationWithoutEnums) t

/-- a type with `room` for as many levels: an object, or its name alone -/
def checkType (room : Nat) (v : Value) : Checked TypeRef :=
  if room = 0 then fault .tooDeep
  else match v with
    | .text _ | .broken _ => checkTypeObject [(.text "name", v)]
    | v => object "TypeModel" checkTypeObject v

/-- names in a list, or in one text with blanks between them -/
def checkNames : Value → Checked (List String)
  | .text s => .ok (words s)
  | .broken codes => .ok (words (.ofList (joinHalves codes)))
  | v => listOf text v

/-- keywords that select a construct -/
def constructKeywords : List String :=
  ["container", "list", "leaf", "leaf-list", "choice", "case", "typedef", "identity"]

/-- the kind that a value says it has -/
def kind? (v : Value) : Option Value :=
  match v.head with
  | .map ms => Value.member? "kind" ms
  | _ => none

/-- the step that names the construct a value claims to be -/
def constructStep (v : Value) : Step :=
  match kind? v with
  | some (.text k) => .member (if constructKeywords.contains k then k else "other")
  | _ => .member "other"

/-- whether the kind of a value is a collection, which no keyword can be compared with -/
def incomparableKind? (v : Value) : Option Stop :=
  match (kind? v).map Value.head with
  | some (.list vs) => some (.incomparable (Value.list vs).kindName)
  | some (.map ms) => some (.incomparable (Value.map ms).kindName)
  | _ => none

/-- a list of statements, each of which passes a check -/
def checkStatements (check : Value → Checked Statement) : Value → Checked (List Statement) :=
  listOf fun v =>
    match incomparableKind? v with
    | some stop => .stopped stop
    | none => (check v).within [constructStep v]

/-- a named statement from its construct and the statements below it -/
def namedStatement (ms : Members) (fields : List String) (construct : Checked Construct)
    (children : Checked (List Statement)) : Checked Statement :=
  closed (["name", "description", "kind"] ++ fields) ms
    (Statement.named <$> required "name" (textOf .identifier) ms <*> description ms <*> construct <*> children)

/-- any other statement -/
def otherStatement (ms : Members) : Checked Statement :=
  closed ["kind", "argument"] ms
    (Statement.other <$> required "kind" (textOf .keyword) ms <*> defaulting "argument" none (optional text) ms)

/-- a statement from its members, with `room` for as many levels below it, where `below` checks the statements there -/
def statementOf (room : Nat) (below : Value → Checked Statement) (ms : Members) : Checked Statement :=
  let statementsUnder (name : String) := defaulting name [] (checkStatements below) ms
  let typeOf (construct : TypeRef → Construct) := construct <$> required "type" (checkType room) ms
  match Value.member? "kind" ms with
  | some (.text "container") => namedStatement ms ["children"] (.ok .container) (statementsUnder "children")
  | some (.text "list") =>
    namedStatement ms ["key", "children"] (Construct.list <$> defaulting "key" [] checkNames ms)
      (statementsUnder "children")
  | some (.text "leaf") => namedStatement ms ["type"] (typeOf .leaf) (.ok [])
  | some (.text "leaf-list") => namedStatement ms ["type"] (typeOf .leafList) (.ok [])
  | some (.text "choice") => namedStatement ms ["cases"] (.ok .choice) (statementsUnder "cases")
  | some (.text "case") => namedStatement ms ["children"] (.ok .case) (statementsUnder "children")
  | some (.text "typedef") => namedStatement ms ["type"] (typeOf .typedef) (.ok [])
  | some (.text "identity") =>
    namedStatement ms ["bases"] (Construct.identity <$> defaulting "bases" [] (listOf (textOf .qualified)) ms) (.ok [])
  | _ => otherStatement ms

/-- a statement inside of those named `around`, with `room` for as many levels -/
def checkStatement : Nat → List Nat → Value → Checked Statement
  | room, around, v =>
    if v.name?.any around.contains then fault .cyclic
    else match room with
      | 0 => fault .tooDeep
      | room + 1 => object "OtherStatement" (statementOf room (checkStatement room (v.name?.toList ++ around))) v

/-- number of levels to which statements and types may be nested -/
def depthLimit : Nat := 255

/-- a module -/
def checkModule : Value → Checked ModuleDecl :=
  object "ModuleModel" fun ms =>
    closed ["name", "namespace", "prefix", "description", "statements"] ms
      (ModuleDecl.mk <$> required "name" (textOf .identifier) ms <*> required "namespace" filledText ms <*>
        required "prefix" (textOf .identifier) ms <*> description ms <*>
        defaulting "statements" [] (checkStatements (checkStatement depthLimit [])) ms)

/-- at least one module -/
def checkModules (v : Value) : Checked (List ModuleDecl) :=
  (listOf checkModule v).andThen fun ms => refusedIf ms.isEmpty .noItems ms

/-- whether a list holds a text twice -/
def hasDuplicate : List String → Bool
  | [] => false
  | s :: ss => ss.contains s || hasDuplicate ss

/-- module names and prefixes are distinct -/
def checkDistinct (d : Document) : Checked Document :=
  if hasDuplicate (d.modules.map (·.name)) then fault (.rejected .duplicateModuleName)
  else refusedIf (hasDuplicate (d.modules.map (·.modulePrefix))) (.rejected .duplicateModulePrefix) d

/-- a schema document -/
def Document.check : Value → Checked Document :=
  object "SchemaDocument" fun ms =>
    (closed ["modules"] ms (Document.mk <$> required "modules" checkModules ms)).andThen checkDistinct

end YangDesign.Schema
