/-
The commands that show what a file holds, and which version this is.
-/
import YangDesign.Command.Validate

namespace YangDesign

/-- the version that the program reports -/
def version : String :=
  "0.1.0"

namespace Command

open Console

/-- a panel about a file -/
def fileInfo (title : String) (lines : List String) : Shown :=
  printedFittedPanel "File Info" ("\n".intercalate (styled "bold" title :: lines))

/-- shows a schema file -/
def inspectSchema (p : Path) : Action Unit := do
  let d ← attempt (loadDocument (← get).files p)
  say (fileInfo "YANG Schema" ["File: " ++ p.text])
  say (schemaContents d)

/-- shows a design file -/
def inspectDesign (p : Path) : Action Unit := do
  let files := (← get).files
  let s ← attempt (loadSummary files p)
  let text ← attempt ((files.read? p).mapError .unusable)
  let size := (text.getD "").utf8ByteSize
  say (fileInfo "OPC UA ModelDesign" ["File: " ++ p.text, "Size: " ++ Text.thousands size ++ " bytes"])
  say (designContents s)

/-- shows a file by its ending -/
def inspectSteps (p : Path) : Action Unit := do
  if documentKinds.contains p.kind then inspectSchema p
  else if p.kind = ".xml" then inspectDesign p
  else
    complain (printed (heading "red" ("✗ Unknown file type: " ++ p.kind) ++ "\nSupported: .yaml, .yml, .json, .xml"))
    leave 1

/-- shows what a file holds -/
def inspect (p : Path) : Action Unit :=
  handled false (inspectSteps p)

/-- shows the version if asked for, and ends there -/
def showVersion (asked : Bool) : Action Unit := do
  if asked then
    say (printed ("yang-to-opcua version " ++ version))
    leave 0

end Command

end YangDesign
