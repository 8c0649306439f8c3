/-
Why a command cannot go on, and how it says so.

Failures with a message of their own are shown under a title that tells what was being done; all others are unexpected.
-/
import YangDesign.Command.Files
import YangDesign.Console.Faults
import YangDesign.Console.Verdict
import YangDesign.Design.Reader
import YangDesign.Input.Checked
import YangDesign.Instance.Failure
import YangDesign.Translate.Failure
import YangDesign.Yaml.Fault

namespace YangDesign.Command

open Console

/-- why a schema or data file is not loaded -/
inductive LoadFault where
  | notFound
  | notFile
  | unsupported (kind : String)
  | malformed
  | empty
  | notMapping (kindName : String)
  deriving DecidableEq, Repr

/-- a file and why it is not loaded -/
structure LoadFailure where
  path : Path
  fault : LoadFault
  deriving DecidableEq, Repr

/-- a message about a file -/
def aboutFile (file : Option String) (message : String) : String :=
  match file with
  | some f => f ++ ": " ++ message
  | none => message

/-- wording of a failure -/
def LoadFailure.message (f : LoadFailure) : String :=
  aboutFile (some f.path.text) (match f.fault with
    | .notFound => "File not found: " ++ f.path.text
    | .notFile => "Not a file: " ++ f.path.text
    | .unsupported kind => "Unsupported file extension: " ++ kind ++ ". Use .yaml, .yml, or .json"
    | .malformed => Yaml.Fault.malformed.message
    | .empty => "File is empty"
    | .notMapping kindName => "Expected dictionary at root level, got " ++ kindName)

/-- a design file and why it is not read; none if it is not there -/
structure DesignFailure where
  path : Path
  fault : Option Design.ReadFault
  deriving DecidableEq, Repr

/-- wording of a failure -/
def DesignFailure.message (f : DesignFailure) : String :=
  aboutFile (some f.path.text) ((f.fault.map Design.ReadFault.message).getD "File not found")

/-- why a command cannot go on -/
inductive Failure where
  | unloadable (f : LoadFailure)
  | unreadableScalar (f : Yaml.Fault)
  | faulty (fs : List Input.Fault)
  | stopped (reason : Input.Stop)
  | unresolved (f : Schema.ResolutionFailure)
  | misfit (f : Instance.DataFailure)
  | untranslatable (f : Translate.Failure)
  | rejected (v : Audit.Verdict)
  | unwritable (f : Design.WriteFault)
  | unreadableDesign (f : DesignFailure)
  | invalidTag (tag : String)
  | unusable (p : FileProblem)
  | unprintable (f : MarkupFault)
  deriving Repr

/-- what was being done when a command failed -/
inductive Activity where
  | loading
  | resolving
  | decoding
  | translating
  | readingDesign
  deriving DecidableEq, Repr

/-- title of a failed activity -/
def Activity.title : Activity → String
  | .loading => "Cannot Load File"
  | .resolving => "Schema Resolution Failed"
  | .decoding => "Invalid Instance Data"
  | .translating => "Translation Failed"
  | .readingDesign => "Invalid ModelDesign File"

/-- what is shown of a failure -/
inductive Notice where
  | verdict (v : Audit.Verdict)
  | faults (fs : List Input.Fault)
  | failed (activity : Activity) (message : String)
  | unusable (message : String)
  | unexpected (message : String)
  deriving Repr

/-- a message in a panel -/
def messagePanel (title message : String) : Shown :=
  printedPanel title (styled "red" (escape message))

/-- the rows of a notice; without details it ends with how to get them -/
def Notice.rows (details : Bool) : Notice → Shown
  | .verdict v => verdictRows false none v
  | .faults fs => showFaults fs
  | .failed activity message => messagePanel activity.title message
  | .unusable message => messagePanel "Error" message
  | .unexpected message =>
    let hint := if details then [] else [printed ("\n" ++ styled "dim" "Use --verbose for full traceback")]
    stacked (messagePanel "Error" ("An unexpected error occurred:\n" ++ message) :: hint)

/-- the notice of a problem with a file -/
def FileProblem.notice (p : FileProblem) : Notice :=
  match p with
  | .missing _ | .denied _ => .unusable p.message
  | _ => .unexpected p.message

/-- the notice of a failure -/
def Failure.notice : Failure → Notice
  | .unloadable f => .failed .loading f.message
  | .unreadableScalar f => .unexpected f.message
  | .faulty fs => .faults fs
  | .stopped reason => .unexpected reason.message
  | .unresolved f =>
    match f with
    | .unresolved .. => .failed .resolving f.message
    | .undeclared name => .unexpected (Text.quoted name)
  | .misfit f =>
    match f with
    | .misfit .. => .failed .decoding f.message
    | _ => .unexpected f.message
  | .untranslatable f =>
    match f with
    | .untranslatable .. => .failed .translating f.message
    | .duplicate _ => .unexpected f.message
  | .rejected v => .verdict v
  | .unwritable f => .unexpected f.message
  | .unreadableDesign f => .failed .readingDesign f.message
  | .invalidTag tag => .unexpected (Design.invalidTagMessage tag)
  | .unusable p => p.notice
  | .unprintable f => .unexpected f.message

end YangDesign.Command
