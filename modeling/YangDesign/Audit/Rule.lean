/-
The rules that a design is checked against: names are unique, types are defined before they are used, every type is defined,
and type definitions have a description.

The first three are errors, the last is a warning.
-/
import YangDesign.Audit.Issue
import YangDesign.Design.TypeReference

namespace YangDesign.Audit

open Design

/-- a rule for designs -/
inductive Rule where
  | uniqueNames
  | backwardReferences
  | definedReferences
  | descriptions
  deriving DecidableEq, Repr

/-- all rules in the order of reports -/
def Rule.all : List Rule :=
  [.uniqueNames, .backwardReferences, .definedReferences, .descriptions]

/-- code of the issues of a rule -/
def Rule.code : Rule → String
  | .uniqueNames => "E100"
  | .backwardReferences => "E001"
  | .definedReferences => "E002"
  | .descriptions => "W003"

/-- each name once, in order of first occurrence, with its number of occurrences -/
def occurrences (names : List SymbolicName) : List (SymbolicName × Nat) :=
  names.eraseDups.map fun n => (n, names.count n)

/-- issues for names that occur more than once -/
def repeated (names : List SymbolicName) (issue : SymbolicName → Nat → Issue) : List Issue :=
  (occurrences names).filterMap fun (n, k) => if k > 1 then some (issue n k) else none

/-- issue for a name with several definitions -/
def definedTwice (n : SymbolicName) (k : Nat) : Issue :=
  ⟨Rule.uniqueNames.code, "Symbolic name '" ++ n.name ++ "' is defined " ++ toString k ++ " times", .error,
    some ⟨n.name, none⟩, none, []⟩

/-- issue for a name that several members of one node have -/
def declaredTwice (path : String) (position : Nat) (n : SymbolicName) (k : Nat) : Issue :=
  ⟨Rule.uniqueNames.code, "Member '" ++ n.name ++ "' is declared " ++ toString k ++ " times", .error,
    some ⟨path ++ "." ++ n.name, some position⟩, none, []⟩

mutual

/-- issues for the members of a node -/
def memberListIssues (path : String) (position : Nat) (ms : List Member) : List Issue :=
  repeated (ms.map (·.labels.symbolic)) (declaredTwice path position) ++ nestedIssues path position ms

/-- issues for the members below some members -/
def nestedIssues (path : String) (position : Nat) : List Member → List Issue
  | [] => []
  | m :: ms => memberIssues path position m ++ nestedIssues path position ms

/-- issues for the members below a member -/
def memberIssues (path : String) (position : Nat) : Member → List Issue
  | .variableNode .. => []
  | .objectNode labels _ _ children =>
    let path := path ++ "." ++ labels.symbolic.name
    repeated (children.map (·.labels.symbolic)) (declaredTwice path position) ++ nestedIssues path position children

end

/-- the position of the first definition of a name -/
def firstPosition? (doc : ModelDocument) (n : SymbolicName) : Option Nat :=
  doc.definitions.toList.findIdx? (·.name == n)

/-- issue for a type that is defined after its use -/
def forwardIssue (r : TypeReference) (position target : Nat) : Issue :=
  ⟨Rule.backwardReferences.code, r.role.name ++ " '" ++ r.target.name ++ "' is defined after its use (definition #" ++
      toString target ++ ")", .error, some ⟨r.source.name ++ "." ++ r.role.name, some position⟩,
    some "Emit dependencies before the definitions using them", [("target", r.target.name)]⟩

/-- issue for a type that is not defined -/
def undefinedIssue (r : TypeReference) (position : Nat) : Issue :=
  ⟨Rule.definedReferences.code, r.role.name ++ " '" ++ r.target.name ++ "' is not defined", .error,
    some ⟨r.source.name ++ "." ++ r.role.name, some position⟩, none, [("target", r.target.name)]⟩

/-- issue for a type definition without a description -/
def undescribedIssue (d : Definition) (position : Nat) : Issue :=
  ⟨Rule.descriptions.code, d.kind.title ++ " has no description", .warning, some ⟨d.name.name, some position⟩,
    some "Add a description to the YANG statement", []⟩

/-- the issues of a rule -/
def Rule.check (doc : ModelDocument) : Rule → List Issue
  | .uniqueNames =>
    repeated (doc.definitions.toList.map (·.name)) definedTwice ++
      doc.numbered.flatMap fun (d, i) => memberListIssues d.name.name i d.children
  | .backwardReferences =>
    doc.numbered.flatMap fun (d, i) => d.typeReferences.filterMap fun r =>
      if r.target.isBuiltIn then none
      else match firstPosition? doc r.target with
        | some j => if j > i then some (forwardIssue r i j) else none
        | none => none
  | .definedReferences =>
    doc.numbered.flatMap fun (d, i) => d.typeReferences.filterMap fun r =>
      if r.target.isBuiltIn || (firstPosition? doc r.target).isSome then none else some (undefinedIssue r i)
  | .descriptions =>
    doc.numbered.filterMap fun (d, i) =>
      if d.kind != .object && (d.labels.description.getD "").isEmpty then some (undescribedIssue d i) else none

/-- the issues of some rules, rule by rule -/
def audit (rules : List Rule) (doc : ModelDocument) : Verdict :=
  rules.flatMap (Rule.check doc)

/-- the verdict on a design by all rules -/
def verdict (doc : ModelDocument) : Verdict :=
  audit Rule.all doc

/-- whether a verdict stops a design: by an error, or under `strict` by a warning -/
def refuses (strict : Bool) (v : Verdict) : Bool :=
  !v.isValid || (strict && !v.warnings.isEmpty)

end YangDesign.Audit
