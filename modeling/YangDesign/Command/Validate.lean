/-
The command that checks a schema file, and a data file if there is one, as well as the design they translate to.
-/
import YangDesign.Audit.Rule
import YangDesign.Command.Load
import YangDesign.Command.Session
import YangDesign.Console.Contents
import YangDesign.Translate.Schema

namespace YangDesign.Command

open Console Translate

/-- what to check and how to report it -/
structure ValidateRequest where
  schema : Path
  data : Option Path
  quiet : Bool
  summary : Bool
  form : String
  verbose : Bool
  deriving DecidableEq, Repr

/-- a finding cut at its first colon with a blank: where it is, and what is wrong -/
def cutFinding (before : List Char) : List Char → String × String
  | ':' :: ' ' :: cs => (.ofList before.reverse, .ofList cs)
  | c :: cs => cutFinding (c :: before) cs
  | [] => ("", .ofList before.reverse)

/-- findings as a grid -/
def findingsGrid (findings : List String) : Shown :=
  printedGrid "Validation Errors" [⟨"#", some 4⟩, ⟨"Location", none⟩, ⟨"Error", none⟩] true
    (findings.zipIdx.map fun (f, i) =>
      let (place, message) := cutFinding [] f.toList
      [toString (i + 1), escape place, escape message])

/-- a heading in bold, with an empty line before it -/
def heading (colour text : String) : String :=
  "\n" ++ styled ("bold " ++ colour) text

/-- the design of a schema and its data, with a record of what happened on the way -/
def translated (s : Settings) (t : Schema.Tree) (data : List Instance.DataNode) :
    Action (Except Translate.Failure Design.ModelDocument) := do
  let (r, p) := Translate.run s t data
  record p.journal
  return r.map fun _ => p.document

/-- the form a verdict is asked for in -/
def chosenForm (name : String) : Action VerdictForm := do
  match VerdictForm.named? name with
  | some form => return form
  | none =>
    complain (printed (heading "red" ("✗ Unknown format: " ++ name) ++ "\nSupported: " ++
      ", ".intercalate (VerdictForm.all.map VerdictForm.name)))
    leave 1

/-- ends the command if there are findings -/
def reportFindings (r : ValidateRequest) : Action Unit := do
  let found ← attempt (findings (← get).files r.schema r.data)
  if !found.isEmpty then
    complain (printed (heading "red" ("✗ Validation failed for " ++ r.schema.name) ++ "\n"))
    say (findingsGrid found)
    leave 1

/-- the design, unless its translation fails -/
def designToCheck (now : Int) (r : ValidateRequest) : Action Design.ModelDocument := do
  let files := (← get).files
  let (t, events) ← attempt (loadSchema files r.schema)
  let data ← attempt (loadDataIfGiven files r.data t)
  record events
  match ← translated (.default now) t data with
  | .ok doc => return doc
  | .error (.duplicate name) => throw (.failure (.untranslatable (.duplicate name)))
  | .error f =>
    complain (printed (heading "red" ("✗ Translation failed: " ++ escape f.message) ++ "\n"))
    leave 1

/-- checks a schema file at a time of publication -/
def validate (now : Int) (r : ValidateRequest) : Action Unit := do
  let form ← chosenForm r.form
  reportFindings r
  let doc ← designToCheck now r
  let v := Audit.verdict doc
  let warned := !v.warnings.isEmpty
  if !v.isValid || warned then
    complain (showVerdict form r.verbose (some r.schema.text) v)
    if !v.isValid then leave 1
  if !r.quiet then
    if warned then say (printed (heading "yellow" ("⚠ " ++ r.schema.name ++ " is valid with warnings") ++ "\n"))
    else say (printed (heading "green" ("✓ " ++ r.schema.name ++ " is valid") ++ "\n"))
    if r.summary then
      say (schemaContents (← attempt (loadDocument (← get).files r.schema)))
      say (designContents doc.summary)

end YangDesign.Command
