/-
The command that translates a schema file, and a data file if there is one, and writes the design to a file.

Nothing is written unless everything before succeeds. Only the message of success comes after, and it can still fail.
-/
import YangDesign.Command.Validate

namespace YangDesign.Command

open Console Translate

/-- what to translate and where to write it -/
structure ConvertRequest where
  schema : Path
  data : Option Path
  output : Option Path
  designName : String
  force : Bool
  dryRun : Bool
  verbose : Bool
  deriving DecidableEq, Repr

/-- a design from files by some settings, written to a file; what is checked is only that it can be written -/
def convertFiles (files : Files) (s : Settings) (schema output : Path) (data : Option Path) :
    Except Failure (Design.ModelDocument × Files) := do
  let (t, _) ← loadSchema files schema
  let nodes ← loadDataIfGiven files data t
  let doc ← (translate s t nodes).mapError .untranslatable
  let text ← (doc.write true).mapError .unwritable
  let (result, after) := (Files.write output text).run files
  result.mapError .unusable
  return (doc, after)

/-- where the design goes if the request does not say: next to the schema, under its own name -/
def outputFor (r : ConvertRequest) (s : Settings) : Path :=
  r.output.getD (r.schema.parent.child (s.designName ++ ".xml"))

/-- refuses an output that is there already -/
def guardOutput (r : ConvertRequest) (output : Path) : Action Unit := do
  let found ← attempt (((← get).files.entry? output).mapError .unusable)
  if found.isSome && !r.force && !r.dryRun then
    complain (printed (heading "red" ("✗ Output file already exists: " ++ output.text) ++ "\nUse --force to overwrite."))
    leave 1

/-- the design of the files, without errors -/
def soundDesign (r : ConvertRequest) (s : Settings) : Action Design.ModelDocument := do
  let files := (← get).files
  let (t, events) ← attempt (loadSchema files r.schema)
  record events
  if r.verbose then
    say (printed ("  " ++ styled "dim" ("Modules: " ++ ", ".intercalate (t.modules.map (·.name)))))
  let data ← attempt (loadDataIfGiven files r.data t)
  let doc ← attempt ((← translated s t data).mapError .untranslatable)
  let v := Audit.verdict doc
  if Audit.refuses false v then throw (.failure (.rejected v))
  return doc

/-- the settings of a request -/
def settingsOf (now : Int) (r : ConvertRequest) : Except Failure Settings :=
  checked (Settings.check now (.map [(.text "design_name", .text r.designName)]))

/-- where the design of a request goes, the design, and its text; no file is changed -/
def prepared (now : Int) (r : ConvertRequest) : Action (Path × Design.ModelDocument × String) := do
  let s ← attempt (settingsOf now r)
  let output := outputFor r s
  guardOutput r output
  let doc ← soundDesign r s
  if r.verbose then say (designContents doc.summary)
  let text ← attempt ((doc.write true).mapError .unwritable)
  return (output, doc, text)

/-- what is shown of a text that would be written -/
def wouldWrite (text : String) (output : Path) : Shown :=
  printed (heading "green" ("✓ Would write " ++ Text.thousands text.utf8ByteSize ++ " bytes to " ++ output.text) ++ "\n")

/-- what is shown of a design that was written -/
def wrote (doc : Design.ModelDocument) (output : Path) : Shown :=
  printed (heading "green" ("✓ Wrote " ++ toString doc.size ++ " definitions to " ++ output.text) ++ "\n")

/-- translates and writes; failures are not shown yet -/
def convertSteps (now : Int) (r : ConvertRequest) : Action Unit := do
  let (output, doc, text) ← prepared now r
  if r.dryRun then say (wouldWrite text output)
  else
    change (Files.write output text)
    say (wrote doc output)

/-- translates a schema file at a time of publication and writes the design -/
def convert (now : Int) (r : ConvertRequest) : Action Unit :=
  handled r.verbose (convertSteps now r)

end YangDesign.Command
