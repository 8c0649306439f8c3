/-
Faults of input, as causes: each has a code, a message and the details that its explanation needs.
-/
import YangDesign.Input.Report
import YangDesign.Text.Form
import YangDesign.Time.Written

namespace YangDesign.Input

open Text Time

/-- a rule over several fields, or over the meaning of one, that input breaks -/
inductive Rejection where
  | enumerationWithoutEnums
  | duplicateModuleName
  | duplicateModulePrefix
  | reservedDesignName (name : String)
  deriving DecidableEq, Repr

/-- wording of a rejection -/
def Rejection.message : Rejection → String
  | .enumerationWithoutEnums => "enumeration type requires at least one enum"
  | .duplicateModuleName => "duplicate module name"
  | .duplicateModulePrefix => "duplicate module prefix"
  | .reservedDesignName name => "design name '" ++ name ++ "' is a reserved XML prefix"

/-- why a part of the input is refused -/
inductive Cause where
  | missing
  | unknownField
  | keyNotText
  | notText
  | notUnicode
  | pattern (form : Form)
  | emptyText
  | notList
  | noItems
  | notInteger
  | unreadableInteger
  | oversizedInteger
  | fractionalInteger
  | infiniteInteger
  | notBoolean
  | unreadableBoolean
  | notMoment
  | unreadableMoment (fault : DateFault)
  | uncountableMoment (fault : DateFault)
  | notObject (expected : String)
  | tooDeep
  | cyclic
  | rejected (rejection : Rejection)
  deriving DecidableEq, Repr

namespace Cause

/-- code of a cause -/
def code : Cause → String
  | .missing => "missing"
  | .unknownField => "extra_forbidden"
  | .keyNotText => "invalid_key"
  | .notText => "string_type"
  | .notUnicode => "string_unicode"
  | .pattern _ => "string_pattern_mismatch"
  | .emptyText => "string_too_short"
  | .notList => "list_type"
  | .noItems => "too_short"
  | .notInteger => "int_type"
  | .unreadableInteger => "int_parsing"
  | .oversizedInteger => "int_parsing_size"
  | .fractionalInteger => "int_from_float"
  | .infiniteInteger => "finite_number"
  | .notBoolean => "bool_type"
  | .unreadableBoolean => "bool_parsing"
  | .notMoment => "datetime_type"
  | .unreadableMoment _ => "datetime_from_date_parsing"
  | .uncountableMoment _ => "datetime_parsing"
  | .notObject _ => "model_type"
  | .tooDeep => "recursion_depth_exceeded"
  | .cyclic => "recursion_loop"
  | .rejected _ => "value_error"

/-- message of a cause -/
def message : Cause → String
  | .missing => "Field required"
  | .unknownField => "Extra inputs are not permitted"
  | .keyNotText => "Keys should be strings"
  | .notText => "Input should be a valid string"
  | .notUnicode => "Input should be a valid string, unable to parse raw data as a unicode string"
  | .pattern form => "String should match pattern '" ++ form.pattern ++ "'"
  | .emptyText => "String should have at least 1 character"
  | .notList => "Input should be a valid list"
  | .noItems => "List should have at least 1 item after validation, not 0"
  | .notInteger => "Input should be a valid integer"
  | .unreadableInteger => "Input should be a valid integer, unable to parse string as an integer"
  | .oversizedInteger => "Unable to parse input string as an integer, exceeded maximum size"
  | .fractionalInteger => "Input should be a valid integer, got a number with a fractional part"
  | .infiniteInteger => "Input should be a finite number"
  | .notBoolean => "Input should be a valid boolean"
  | .unreadableBoolean => "Input should be a valid boolean, unable to interpret input"
  | .notMoment => "Input should be a valid datetime"
  | .unreadableMoment fault => "Input should be a valid datetime or date, " ++ fault.message
  | .uncountableMoment fault => "Input should be a valid datetime, " ++ fault.message
  | .notObject expected => "Input should be a valid dictionary or instance of " ++ expected
  | .tooDeep => "Recursion error - maximum validation depth exceeded"
  | .cyclic => "Recursion error - cyclic reference detected"
  | .rejected rejection => "Value error, " ++ rejection.message

/-- the details that belong to a cause -/
def details : Cause → List (String × Value)
  | .pattern form => [("pattern", .text form.pattern)]
  | .rejected rejection => [("error", .text rejection.message)]
  | _ => []

/-- the report on a cause -/
def report (c : Cause) : Report :=
  ⟨c.code, some c.message, c.details⟩

/-- a cause in words for a reader -/
def explanation (c : Cause) : String :=
  c.report.explanation?.getD c.message

/-- how to mend the input, where something general can be said -/
def hint? (c : Cause) : Option String :=
  c.report.hint?

end Cause

/-- a cause and where it is found -/
structure Fault where
  location : List Step
  cause : Cause
  deriving DecidableEq, Repr

/-- a fault on one line: the dotted location and the message -/
def Fault.line (f : Fault) : String :=
  dottedLocation f.location ++ ": " ++ f.cause.message

end YangDesign.Input
