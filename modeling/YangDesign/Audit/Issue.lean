/-
Issues found in a design, and the verdict they add up to: a design is valid if no issue is an error.
-/

namespace YangDesign.Audit

/-- how grave an issue is -/
inductive Severity where
  | error
  | warning
  | info
  deriving DecidableEq, Repr

/-- name of a severity -/
def Severity.name : Severity → String
  | .error => "error"
  | .warning => "warning"
  | .info => "info"

/-- name of a severity in capitals -/
def Severity.label : Severity → String
  | .error => "ERROR"
  | .warning => "WARNING"
  | .info => "INFO"

/-- where an issue is found: a name with an attribute, and the position of the definition if it is known -/
structure Location where
  path : String
  position : Option Int
  deriving DecidableEq, Repr

/-- a location as text -/
def Location.text (l : Location) : String :=
  match l.position with
  | some p => l.path ++ " (definition #" ++ toString p ++ ")"
  | none => l.path

/-- an issue -/
structure Issue where
  code : String
  message : String
  severity : Severity
  location : Option Location
  suggestion : Option String
  context : List (String × String)
  deriving DecidableEq, Repr

/-- an issue on one line -/
def Issue.text (i : Issue) : String :=
  let place := (i.location.map fun l => "at " ++ l.text).toList
  let hint := ((i.suggestion.filter (!·.isEmpty)).map fun s => "(hint: " ++ s ++ ")").toList
  " ".intercalate (["[" ++ i.code ++ "]", i.severity.label, i.message] ++ place ++ hint)

/-- the issues found in a design, in order -/
abbrev Verdict := List Issue

namespace Verdict

/-- the errors -/
def errors (v : Verdict) : List Issue :=
  v.filter (·.severity == .error)

/-- the warnings -/
def warnings (v : Verdict) : List Issue :=
  v.filter (·.severity == .warning)

/-- whether there are no errors -/
def isValid (v : Verdict) : Bool :=
  v.errors.isEmpty

/-- the issues of a code -/
def ofCode (v : Verdict) (code : String) : List Issue :=
  v.filter (·.code == code)

/-- how many errors and warnings there are -/
def rejection (v : Verdict) : String :=
  let count (n : Nat) (noun : String) := if n = 0 then [] else [toString n ++ " " ++ noun ++ "(s)"]
  "Validation failed: " ++ ", ".intercalate (count v.errors.length "error" ++ count v.warnings.length "warning")

/-- errors and then warnings, each on a line -/
def listing (v : Verdict) : String :=
  "\n".intercalate ((v.errors.map fun i => "ERROR: " ++ i.text) ++ v.warnings.map fun i => "WARNING: " ++ i.text)

end Verdict

end YangDesign.Audit
