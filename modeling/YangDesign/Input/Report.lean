/-
Reports on input that fails a check: where it fails, which rule it breaks, and how both are shown to a reader.

A report is made for a program (`code`, `message`, `details`) as well as for a reader (`Report.explanation`, `Report.hint`).
The code selects the wording; a code without a wording of its own shows the message.
-/
import YangDesign.Value

namespace YangDesign.Input

/-- one step of a location: a member of an object or an item of a list -/
inductive Step where
  | member (name : String)
  | item (index : Int)
  deriving DecidableEq, Repr

/-- a step as text -/
def Step.text : Step → String
  | .member name => name
  | .item i => toString i

/-- the steps after the first, members with a dot before them -/
def locationRest : List Step → String
  | [] => ""
  | .member name :: steps => "." ++ name ++ locationRest steps
  | .item i :: steps => "[" ++ toString i ++ "]" ++ locationRest steps

/-- a location such as `modules[0].name` -/
def locationText : List Step → String
  | .member name :: steps => name ++ locationRest steps
  | steps => locationRest steps

/-- a location with a dot between any two steps -/
def dottedLocation (steps : List Step) : String :=
  ".".intercalate (steps.map Step.text)

/-- a report on one failed check -/
structure Report where
  code : String
  message : Option String
  details : List (String × Value) := []
  deriving Repr

/-- wording for readers, by code -/
def explanations : List (String × String) := [
  ("missing", "Required field is missing"),
  ("extra_forbidden", "Unknown field for this statement"),
  ("string_type", "Expected a string"),
  ("int_type", "Expected an integer"),
  ("list_type", "Expected a list"),
  ("dict_type", "Expected a mapping"),
  ("model_type", "Expected a mapping"),
  ("literal_error", "Unexpected statement keyword"),
  ("too_short", "At least one entry is required"),
  ("string_too_short", "Must not be empty"),
  ("value_error", "Invalid value")]

/-- how to mend the input, by code -/
def hints : List (String × String) := [
  ("missing", "Add the field to the statement"),
  ("extra_forbidden", "Remove the field or check its spelling"),
  ("string_pattern_mismatch",
    "Identifiers start with a letter or '_' and contain only letters, digits, '_', '-' and '.'"),
  ("too_short", "Declare at least one module under 'modules'")]

namespace Report

/-- a detail for display -/
def detail? (r : Report) (key : String) : Option String :=
  (r.details.lookup key).map Value.display

/-- wording for a reader; none if the report has no message to fall back on -/
def explanation? (r : Report) : Option String :=
  if r.code = "string_pattern_mismatch" then
    some ("Does not match pattern " ++ (r.detail? "pattern").getD "")
  else if r.code = "literal_error" then
    some ("Must be one of: " ++ (r.detail? "expected").getD "unknown")
  else match r.code, r.detail? "error" with
    | "value_error", some text => some text
    | code, _ => r.message.map fun message => (explanations.lookup code).getD message

/-- how to mend the input, where something general can be said -/
def hint? (r : Report) : Option String :=
  hints.lookup r.code

end Report

end YangDesign.Input
