/-
A verdict on the console: issue by issue, as a grid, or as an outline by code.

Messages are shown as they are; codes, places, suggestions and context are marked-up text.
-/
import YangDesign.Assoc
import YangDesign.Audit.Issue
import YangDesign.Console.Marked
import YangDesign.Console.Outline

namespace YangDesign.Console

open Audit

/-- the colour of an issue -/
def tint (i : Issue) : String :=
  if i.severity = .error then "red" else "yellow"

/-- text in a style -/
def styled (style text : String) : String :=
  "[" ++ style ++ "]" ++ text ++ "[/" ++ style ++ "]"

/-- the rows of an issue, with its context if asked for -/
def issueRows (withContext : Bool) (i : Issue) : Shown :=
  let heading := styled (tint i ++ " bold") i.severity.label ++ " " ++ styled (tint i) ("\\[" ++ i.code ++ "]") ++ " " ++
    escape i.message
  let place := i.location.toList.map fun l => "  " ++ styled "dim" ("at " ++ l.text)
  let context :=
    if withContext then (Text.sortOn (·.1) i.context).map fun (k, v) => "  " ++ styled "dim" (k ++ " = " ++ v) else []
  let suggestion := (i.suggestion.filter (!·.isEmpty)).toList.map fun s => "  " ++ styled "green" ("💡 " ++ s)
  stacked (([heading] ++ place ++ context ++ suggestion ++ [""]).map printed)

/-- the panel above the issues: the file and how many errors and warnings there are -/
def verdictPanel (source : Option String) (v : Verdict) : Rows :=
  let file := (source.map fun s => "File: " ++ s ++ "\n").getD ""
  let count (label : String) (n : Nat) := if n = 0 then [] else [label ++ ": " ++ toString n]
  let counts := "  ".intercalate (count "Errors" v.errors.length ++ count "Warnings" v.warnings.length)
  panel (if v.isValid then "Validation Warnings" else "Validation Failed") (shown (file ++ counts))

/-- a verdict issue by issue, errors before warnings -/
def verdictRows (withContext : Bool) (source : Option String) (v : Verdict) : Shown :=
  if v.isValid && v.warnings.isEmpty then printed (styled "green" "✓ Validation passed")
  else
    let count (n : Nat) (text : String) := if n = 0 then [] else [text]
    let counts :=
      count v.errors.length (styled "red bold" ("✗ " ++ toString v.errors.length ++ " error(s)")) ++
        count v.warnings.length (styled "yellow" (toString v.warnings.length ++ " warning(s)"))
    stacked ([.ok (verdictPanel source v), printed ""] ++ (v.errors ++ v.warnings).map (issueRows withContext) ++
      [printed (", ".intercalate counts)])

/-- a verdict as a grid -/
def verdictGrid (v : Verdict) : Shown :=
  printedGrid "Validation Issues" [⟨"Code", some 6⟩, ⟨"Severity", some 8⟩, ⟨"Location", none⟩, ⟨"Message", none⟩] true
    (v.map fun i =>
      [i.code, styled (tint i) i.severity.label, (i.location.map Location.text).getD "-", escape i.message])

/-- the codes of a verdict in order, each once -/
def codesOf (v : Verdict) : List String :=
  Text.sortOn id (v.map (·.code)).eraseDups

/-- the leaf of an issue -/
def issueLeaf (i : Issue) : Except MarkupFault Outline := do
  let place := (i.location.map fun l => " " ++ styled "dim" ("(" ++ l.path ++ ")")).getD ""
  return .node (← plain (styled (tint i) (escape i.message) ++ place)) []

/-- the branch of a code -/
def codeBranch (v : Verdict) (code : String) : Except MarkupFault Outline := do
  let issues := v.ofCode code
  let label ← plain (styled "cyan" code ++ " (" ++ toString issues.length ++ " issues)")
  return .node label (← issues.mapM issueLeaf)

/-- a verdict as an outline, a branch for every code -/
def verdictOutline (v : Verdict) : Shown := do
  let root ← plain (styled "bold" "Validation Issues")
  return (Outline.node root (← (codesOf v).mapM (codeBranch v))).render

/-- the forms a verdict can be shown in -/
inductive VerdictForm where
  | text
  | table
  | tree
  deriving DecidableEq, Repr

/-- all forms -/
def VerdictForm.all : List VerdictForm :=
  [.text, .table, .tree]

/-- name of a form -/
def VerdictForm.name : VerdictForm → String
  | .text => "text"
  | .table => "table"
  | .tree => "tree"

/-- the form of a name -/
def VerdictForm.named? (name : String) : Option VerdictForm :=
  VerdictForm.all.find? (·.name == name)

/-- a verdict in a form -/
def showVerdict (form : VerdictForm) (withContext : Bool) (source : Option String) (v : Verdict) : Shown :=
  match form with
  | .text => verdictRows withContext source v
  | .table => verdictGrid v
  | .tree => verdictOutline v

end YangDesign.Console
