/-
The words of a command line as a request: the name of a command, its file and its options.

`Request.read` refuses what it does not know, and options whose value is left out. The files that a request may touch are
known beforehand: `Request.paths` lists them.
-/
import YangDesign.Command.Convert
import YangDesign.Command.Inspect

namespace YangDesign.Command

/-- an option: its spellings, and whether a value follows it -/
structure CommandOption where
  spellings : List String
  hasValue : Bool
  deriving DecidableEq, Repr

/-- why a command line is no request -/
inductive ArgumentFault where
  | noCommand
  | unknownCommand (name : String)
  | unknownOption (spelling : String)
  | missingValue (spelling : String)
  | missingFile
  | surplus (word : String)
  deriving DecidableEq, Repr

/-- wording of a fault -/
def ArgumentFault.message : ArgumentFault → String
  | .noCommand => "Expected a command: validate, convert or info"
  | .unknownCommand name => "No such command: " ++ name
  | .unknownOption spelling => "No such option: " ++ spelling
  | .missingValue spelling => "Option " ++ spelling ++ " requires a value"
  | .missingFile => "Missing file"
  | .surplus word => "Unexpected argument: " ++ word

/-- the words after the name of a command: options with their values, and all others -/
structure Arguments where
  options : List (CommandOption × String)
  words : List String
  deriving DecidableEq, Repr

namespace Arguments

/-- words by the options that a command has -/
def read (known : List CommandOption) : List String → Except ArgumentFault Arguments
  | [] => .ok ⟨[], []⟩
  | [w] =>
    if w.startsWith "-" then
      match known.find? (·.spellings.contains w) with
      | none => .error (.unknownOption w)
      | some o => if o.hasValue then .error (.missingValue w) else .ok ⟨[(o, "")], []⟩
    else .ok ⟨[], [w]⟩
  | w :: v :: ws =>
    if w.startsWith "-" then
      match known.find? (·.spellings.contains w) with
      | none => .error (.unknownOption w)
      | some o =>
        if o.hasValue then do
          let a ← read known ws
          return ⟨(o, v) :: a.options, a.words⟩
        else do
          let a ← read known (v :: ws)
          return ⟨(o, "") :: a.options, a.words⟩
    else do
      let a ← read known (v :: ws)
      return ⟨a.options, w :: a.words⟩

/-- the value of an option, the last one if it is given more than once -/
def value? (a : Arguments) (o : CommandOption) : Option String :=
  a.options.reverse.lookup o

/-- whether an option is given -/
def has (a : Arguments) (o : CommandOption) : Bool :=
  (a.value? o).isSome

/-- the only file of a command -/
def file (a : Arguments) : Except ArgumentFault Path :=
  match a.words with
  | [] => .error .missingFile
  | [w] => .ok (.ofText w)
  | _ :: w :: _ => .error (.surplus w)

end Arguments

/-! ## Options -/

/-- data file -/
def dataOption : CommandOption := ⟨["--data", "-d"], true⟩

/-- no word of success -/
def quietOption : CommandOption := ⟨["--quiet", "-q"], false⟩

/-- contents of the schema and the design -/
def summaryOption : CommandOption := ⟨["--summary", "-s"], false⟩

/-- form of the verdict -/
def formOption : CommandOption := ⟨["--format", "-f"], true⟩

/-- details of what happens -/
def verboseOption : CommandOption := ⟨["--verbose", "-V"], false⟩

/-- output file -/
def outputOption : CommandOption := ⟨["--output", "-o"], true⟩

/-- name of the design -/
def nameOption : CommandOption := ⟨["--design-name", "-n"], true⟩

/-- leave to replace the output file -/
def forceOption : CommandOption := ⟨["--force", "-f"], false⟩

/-- no output file -/
def dryRunOption : CommandOption := ⟨["--dry-run"], false⟩

/-! ## Requests -/

/-- what a command line asks for -/
inductive Request where
  | validate (r : ValidateRequest)
  | convert (r : ConvertRequest)
  | inspect (p : Path)
  | version
  deriving DecidableEq, Repr

namespace Request

/-- a request to check files -/
def readValidate (ws : List String) : Except ArgumentFault Request := do
  let a ← Arguments.read [dataOption, quietOption, summaryOption, formOption, verboseOption] ws
  return .validate ⟨← a.file, (a.value? dataOption).map .ofText, a.has quietOption, a.has summaryOption,
    (a.value? formOption).getD Console.VerdictForm.text.name, a.has verboseOption⟩

/-- a request to translate files -/
def readConvert (ws : List String) : Except ArgumentFault Request := do
  let a ← Arguments.read [dataOption, outputOption, nameOption, forceOption, dryRunOption, verboseOption] ws
  return .convert ⟨← a.file, (a.value? dataOption).map .ofText, (a.value? outputOption).map .ofText,
    (a.value? nameOption).getD Translate.defaultDesignName, a.has forceOption, a.has dryRunOption, a.has verboseOption⟩

/-- a request to show what a file holds -/
def readInspect (ws : List String) : Except ArgumentFault Request := do
  return .inspect (← (← Arguments.read [] ws).file)

/-- the request of a command line -/
def read : List String → Except ArgumentFault Request
  | [] => .error .noCommand
  | "--version" :: _ | "-v" :: _ => .ok .version
  | "validate" :: ws => readValidate ws
  | "convert" :: ws => readConvert ws
  | "info" :: ws => readInspect ws
  | w :: _ => .error (.unknownCommand w)

/-- the places that a request may touch, with the folders on the way to them -/
def places : Request → List Path
  | .validate r => (r.schema :: r.data.toList).flatMap Path.trail
  | .convert r =>
    let output := r.output.getD (r.schema.parent.child (r.designName ++ ".xml"))
    (r.schema :: output :: r.data.toList).flatMap Path.trail
  | .inspect p => p.trail
  | .version => []

/-- the command of a request, run at a time of publication -/
def action (now : Int) : Request → Action Unit
  | .validate r => Command.validate now r
  | .convert r => Command.convert now r
  | .inspect p => Command.inspect p
  | .version => showVersion true

/-- the least weight of the events that are reported -/
def level : Request → Level
  | .validate r => if r.verbose then .info else .warning
  | .convert r => if r.verbose then .info else .warning
  | _ => .warning

end Request

end YangDesign.Command
