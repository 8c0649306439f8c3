/-
Resolution of a schema document: every type name to the typedef or built-in type it denotes, every prefix to its namespace,
every identity base to an identity.

A type name without a prefix, or with a prefix of its own namespace, denotes the innermost typedef in scope; a prefix of
another namespace denotes a typedef at the top of that module. The type of a typedef is read in the scope of its
declaration. A typedef is resolved when it is first asked for, and its type is remembered. One that is asked for while it is
being resolved is refused; those that wait for each other are different ones in reach, which bounds the steps.

The walk over the statements leaves open how the types of typedefs are found (`typeOf`).
-/
import YangDesign.Journal
import YangDesign.Schema.Scope
import YangDesign.Schema.Tree
import YangDesign.Text.Form

namespace YangDesign.Schema

/-- why a document cannot be resolved -/
inductive ResolutionCause where
  | duplicateTypedef (name : String)
  | duplicateEnum (name : String)
  | unknownPrefix (name : String)
  | unresolvedTypedef (name : String)
  | unresolvedBase (name : String)
  | circularTypedef (name : String)
  | enumsForBuiltIn (name : String)
  | enumsForTypedef (name : String)
  | keyNotLeaf (name : String)
  deriving DecidableEq, Repr

/-- wording of a cause -/
def ResolutionCause.message : ResolutionCause → String
  | .duplicateTypedef name => "duplicate typedef '" ++ name ++ "'"
  | .duplicateEnum name => "duplicate enum '" ++ name ++ "'"
  | .unknownPrefix name => "unknown prefix '" ++ name ++ "'"
  | .unresolvedTypedef name => "unresolved typedef '" ++ name ++ "'"
  | .unresolvedBase name => "unresolved identity base '" ++ name ++ "'"
  | .circularTypedef name => "typedef '" ++ name ++ "' refers to itself"
  | .enumsForBuiltIn name => "enums given for type '" ++ name ++ "'"
  | .enumsForTypedef name => "enums given for non-enumeration typedef '" ++ name ++ "'"
  | .keyNotLeaf name => "list key '" ++ name ++ "' is not a leaf"

/-- a failed resolution: a cause at a path, or a typedef that stands where its own scope does not hold it -/
inductive ResolutionFailure where
  | unresolved (cause : ResolutionCause) (path : List String)
  | undeclared (name : String)
  deriving DecidableEq, Repr

/-- a message with the path before it, if there is one -/
def located (path : List String) (message : String) : String :=
  if path.isEmpty then message else "/" ++ slashed path ++ ": " ++ message

/-- wording of a failure -/
def ResolutionFailure.message : ResolutionFailure → String
  | .unresolved cause path => located path cause.message
  | .undeclared name => name

/-- what the modules of a document offer to each other -/
structure Surroundings where
  /-- namespaces by prefix and by module name -/
  namespaces : Assoc String String
  /-- typedefs at the top of a module, by namespace -/
  frames : Assoc String Frame
  /-- identities at the top of a module -/
  identities : List QName
  deriving Repr

/-- an answer or a failure -/
abbrev Resolved (α : Type) := Except ResolutionFailure α

/-- a failure at a path -/
def refuse {α : Type} (path : List String) (cause : ResolutionCause) : Resolved α :=
  .error (.unresolved cause path)

namespace Surroundings

/-- the namespace of a prefix or module name -/
def namespaceOf (env : Surroundings) (label : String) (path : List String) : Resolved String :=
  match env.namespaces.find? label with
  | some uri => .ok uri
  | none => refuse path (.unknownPrefix label)

/-- where a name is looked up: in the scope in which it is used, or at the top of the module that its prefix stands for -/
def placeOf (env : Surroundings) (uri : String) (scope : Scope) (path : List String) :
    Option String → Resolved (String × Scope)
  | none => .ok (uri, scope)
  | some label => do
    let other ← env.namespaceOf label path
    return if other = uri then (uri, scope) else (other, [(env.frames.find? other).getD []])

/-- the typedef a name denotes in a scope -/
def typedefOf (env : Surroundings) (name uri : String) (scope : Scope) (path : List String) : Resolved Declaration := do
  let (label, localName) := Text.splitQualified name
  let (uri, scope) ← env.placeOf uri scope path label
  match lookUp localName scope with
  | some (d, scope) => return ⟨d, uri, scope⟩
  | none => refuse path (.unresolvedTypedef name)

/-- the typedefs that the names in a scope can lead to -/
def inReach (env : Surroundings) (uri : String) (scope : Scope) : List Declaration :=
  declarations uri scope ++ env.frames.toList.flatMap fun (uri, f) => declarations uri [f]

end Surroundings

/-- numbers enums from `next` on: a given value is kept, any other is one more than the largest before it -/
def numberEnums (next : Int) : List EnumDecl → List EnumValue
  | [] => []
  | e :: es =>
    let value := e.value.getD next
    ⟨e.name, value, e.description⟩ :: numberEnums (max next (value + 1)) es

/-- the first label that a list has twice -/
def repeatedLabel? : List String → List EnumDecl → Option String
  | _, [] => none
  | seen, e :: es => if seen.contains e.name then some e.name else repeatedLabel? (e.name :: seen) es

/-- the values of an enumeration -/
def resolveEnums (path : List String) (es : List EnumDecl) : Resolved (List EnumValue) :=
  match repeatedLabel? [] es with
  | some name => refuse path (.duplicateEnum name)
  | none => .ok (numberEnums 0 es)

/-! ## Types -/

/-- the built-in type that a reference names; only a name without a prefix does -/
def TypeRef.builtIn? (ref : TypeRef) : Option BuiltIn :=
  match Text.splitQualified ref.name with
  | (none, localName) => BuiltIn.ofName? localName
  | (some _, _) => none

/-- the type that a reference makes of the type of a typedef: that type itself, if the reference adds nothing to it -/
def TypeRef.refine (ref : TypeRef) (uri : String) (owner : List String) (enums : List EnumValue) (base : TypeDef) :
    TypeDef :=
  if enums.isEmpty && ref.description.isNone then base
  else
    let localName := (Text.splitQualified ref.name).2
    ⟨⟨uri, localName⟩, owner ++ [localName], base.kind, some base, if enums.isEmpty then base.enums else enums,
      ref.description⟩

section Reading

variable {m : Type → Type} [Monad m] [MonadLiftT Resolved m]

/-- the type that a reference in a scope denotes, where `typeOf` finds the types of typedefs -/
def typeOfRef (env : Surroundings) (typeOf : Declaration → m TypeDef) (ref : TypeRef) (uri : String)
    (owner : List String) (scope : Scope) : m TypeDef := do
  let enums ← resolveEnums owner (ref.enums.getD [])
  match ref.builtIn? with
  | some b =>
    if !enums.isEmpty && b != .enumeration then refuse owner (.enumsForBuiltIn b.name)
    else return ⟨⟨uri, b.name⟩, owner ++ [b.name], .builtIn b, none, enums, ref.description⟩
  | none =>
    let base ← typeOf (← env.typedefOf ref.name uri scope owner)
    if !enums.isEmpty && base.kind ≠ .builtIn .enumeration then refuse owner (.enumsForTypedef ref.name)
    else return ref.refine uri owner enums base

/-- the type of a typedef over the type that it asks for -/
def Declaration.over (x : Declaration) (inner : TypeDef) : TypeDef :=
  ⟨⟨x.uri, x.typedef.name⟩, x.typedef.path, inner.kind, some inner, inner.enums, x.typedef.description⟩

/-- the type that a typedef asks for, where `typeOf` finds the types of typedefs -/
def innerType (env : Surroundings) (typeOf : Declaration → m TypeDef) (x : Declaration) : m TypeDef :=
  typeOfRef env typeOf x.typedef.type x.uri x.typedef.path x.scope

/-- a typedef that leads back to itself -/
def circular (x : Declaration) : Resolved TypeDef :=
  refuse x.typedef.path (.circularTypedef x.typedef.name)

end Reading

/-- the types of the typedefs that have been resolved -/
abbrev Memo := Assoc Declaration TypeDef

/-- an answer or a failure, with what is remembered for the next one -/
abbrev Remembering (α : Type) := StateT Memo Resolved α

/-- the remembered type of a typedef; a new one is resolved, while it is not itself `pending`, with the types that `typeOf`
finds, and remembered -/
def recallUnder (env : Surroundings) (pending : List Declaration) (typeOf : Declaration → Remembering TypeDef)
    (x : Declaration) : Remembering TypeDef := do
  match (← get).find? x with
  | some t => return t
  | none =>
    if pending.contains x then circular x
    else
      let inner ← innerType env typeOf x
      modify (·.insert x (x.over inner))
      return x.over inner

/-- the type of a typedef while others are `pending`, with a bound on the steps; `spent` answers where none is left -/
def recallWithin (env : Surroundings) (spent : Declaration → Remembering TypeDef) :
    Nat → List Declaration → Declaration → Remembering TypeDef
  | 0, _ => spent
  | steps + 1, pending => fun x => recallUnder env pending (recallWithin env spent steps (x :: pending)) x

/-- the steps that suffice for a typedef: those that wait for each other are different ones in reach -/
def Surroundings.stepsFor (env : Surroundings) (x : Declaration) : Nat :=
  (env.inReach x.uri x.scope).length + 1

/-- the type of a typedef -/
def recalled (env : Surroundings) (x : Declaration) : Remembering TypeDef :=
  recallWithin env (fun y => circular y) (env.stepsFor x) [] x

/-! ## Nodes -/

/-- the identity that a base names -/
def resolveBase (env : Surroundings) (uri : String) (path : List String) (name : String) : Resolved QName := do
  let (label, localName) := Text.splitQualified name
  let uri ← match label with
    | none => pure uri
    | some label => env.namespaceOf label path
  if env.identities.contains ⟨uri, localName⟩ then return ⟨uri, localName⟩
  else refuse path (.unresolvedBase name)

/-- the frame of a statement list -/
def openFrame (path : List String) (ss : List Statement) : Resolved Frame :=
  match Frame.ofStatements path ss with
  | .ok f => .ok f
  | .error name => refuse (path ++ [name]) (.duplicateTypedef name)

/-- names of the leaves among some nodes -/
def leafNames (ns : List Node) : List String :=
  ns.filterMap fun n => match n.kind with
    | .leaf _ => some n.label
    | _ => none

/-- every key of a list is one of its leaves -/
def checkKeys (path : List String) (leaves : List String) : List String → Resolved Unit
  | [] => .ok ()
  | key :: keys => if leaves.contains key then checkKeys path leaves keys else refuse path (.keyNotLeaf key)

section Walk

variable {m : Type → Type} [Monad m] [MonadLiftT Resolved m]

/-- the kind of a node for a construct, given its children -/
def resolveConstruct (env : Surroundings) (typeOf : Declaration → m TypeDef) (uri : String) (path : List String)
    (scope : Scope) (name : String) (children : List Node) : Construct → m NodeKind
  | .container => return .container
  | .list key => do
    checkKeys path (leafNames children) key
    return .list key
  | .leaf type => return .leaf (some (← typeOfRef env typeOf type uri path scope))
  | .leafList type => return .leafList (some (← typeOfRef env typeOf type uri path scope))
  | .choice => return .choice
  | .case => return .case
  | .typedef _ =>
    match (scope.headD []).find? name with
    | some d => return .typedef (some (← typeOf ⟨d, uri, scope⟩))
    | none => (.error (.undeclared name) : Resolved NodeKind)
  | .identity bases => return .identity (← (bases.mapM (resolveBase env uri path) : Resolved (List QName)))

mutual

/-- the node of a statement below `parent` -/
def resolveStatement (env : Surroundings) (typeOf : Declaration → m TypeDef) (uri : String) (parent : List String)
    (scope : Scope) : Statement → m Node
  | .other keyword argument =>
    return ⟨⟨⟨uri, keyword⟩, parent ++ [keyword], none⟩, .other keyword argument, []⟩
  | .named name description construct children => do
    let path := parent ++ [name]
    let nodes ← match construct with
      | .choice => resolveCases env typeOf uri path scope children
      | .container | .list _ | .case =>
        let frame ← openFrame path children
        resolveStatements env typeOf uri path (frame :: scope) children
      | _ => pure []
    let kind ← resolveConstruct env typeOf uri path scope name nodes construct
    return ⟨⟨⟨uri, name⟩, path, description⟩, kind, nodes⟩

/-- the nodes of a statement list -/
def resolveStatements (env : Surroundings) (typeOf : Declaration → m TypeDef) (uri : String) (parent : List String)
    (scope : Scope) : List Statement → m (List Node)
  | [] => return []
  | s :: ss => do
    let n ← resolveStatement env typeOf uri parent scope s
    let ns ← resolveStatements env typeOf uri parent scope ss
    return n :: ns

/-- the cases of a choice: a statement that is no case stands in an implicit case of its name -/
def resolveCases (env : Surroundings) (typeOf : Declaration → m TypeDef) (uri : String) (choice : List String)
    (scope : Scope) : List Statement → m (List Node)
  | [] => return []
  | .other .. :: ss => resolveCases env typeOf uri choice scope ss
  | .named name description .case children :: ss => do
    let path := choice ++ [name]
    let frame ← openFrame path children
    let nodes ← resolveStatements env typeOf uri path (frame :: scope) children
    let ns ← resolveCases env typeOf uri choice scope ss
    return ⟨⟨⟨uri, name⟩, path, description⟩, .case, nodes⟩ :: ns
  | .named name description construct children :: ss => do
    let path := choice ++ [name]
    let node ← resolveStatement env typeOf uri path scope (.named name description construct children)
    let ns ← resolveCases env typeOf uri choice scope ss
    return ⟨⟨⟨uri, name⟩, path, none⟩, .case, [node]⟩ :: ns

end

end Walk

/-- identities at the top of a module -/
def ModuleDecl.identities (m : ModuleDecl) : List QName :=
  m.statements.filterMap fun s => match s with
    | .named name _ (.identity _) _ => some ⟨m.namespaceUri, name⟩
    | _ => none

/-- what a module adds for the others; a later module of the same namespace takes the place of the earlier -/
def Surroundings.add (env : Surroundings) (m : ModuleDecl) : Resolved Surroundings := do
  let frame ← openFrame [] m.statements
  return {
    namespaces := (env.namespaces.insert m.modulePrefix m.namespaceUri).insert m.name m.namespaceUri
    frames := env.frames.insert m.namespaceUri frame
    identities := env.identities ++ m.identities }

/-- what the modules of a document offer to each other -/
def Document.surroundings (d : Document) : Resolved Surroundings :=
  d.modules.foldlM Surroundings.add ⟨.empty, .empty, []⟩

section Modules

variable {m : Type → Type} [Monad m] [MonadLiftT Resolved m]

/-- a module with everything in it resolved -/
def resolveModule (env : Surroundings) (typeOf : Declaration → m TypeDef) (md : ModuleDecl) : m Module := do
  let frame := (env.frames.find? md.namespaceUri).getD []
  let nodes ← resolveStatements env typeOf md.namespaceUri [] [frame] md.statements
  return ⟨md.name, md.namespaceUri, md.modulePrefix, nodes, md.description⟩

/-- the schema tree of a document, where `typeOf` finds the types of typedefs -/
def Document.resolveWith (typeOf : Surroundings → Declaration → m TypeDef) (d : Document) : m Tree := do
  let env ← d.surroundings
  return ⟨← d.modules.mapM (resolveModule env (typeOf env))⟩

end Modules

/-- the schema tree of a document -/
def Document.resolve (d : Document) : Resolved Tree :=
  (d.resolveWith recalled).run' .empty

/-! ## Events -/

mutual

/-- events of resolving a statement -/
def Statement.events (parent : List String) : Statement → Journal
  | .other .. => []
  | .named name _ construct children =>
    match construct with
    | .choice => caseEvents (parent ++ [name]) children
    | .container | .list _ | .case => eventsIn (parent ++ [name]) children
    | _ => []

/-- events of resolving a statement list -/
def eventsIn (parent : List String) : List Statement → Journal
  | [] => []
  | s :: ss => s.events parent ++ eventsIn parent ss

/-- events of resolving the cases of a choice -/
def caseEvents (choice : List String) : List Statement → Journal
  | [] => []
  | .other keyword _ :: ss => .ignoredInChoice keyword choice :: caseEvents choice ss
  | .named name _ .case children :: ss => eventsIn (choice ++ [name]) children ++ caseEvents choice ss
  | .named name description construct children :: ss =>
    Statement.events (choice ++ [name]) (.named name description construct children) ++ caseEvents choice ss

end

/-- events of resolving a document -/
def Document.events (d : Document) : Journal :=
  d.modules.flatMap fun m => .resolvingModule m.name :: eventsIn [] m.statements

end YangDesign.Schema
