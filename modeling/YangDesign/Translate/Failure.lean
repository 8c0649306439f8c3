/-
Why a schema cannot be translated, each cause with a stable code.
-/
import YangDesign.Design.Document
import YangDesign.Schema.Tree

namespace YangDesign.Translate

open Design

/-- kinds of failures that carry a code -/
inductive FailureKind where
  | general
  | unsupportedConstruct
  | invalidName
  | multipleInheritance
  | unknownPrimitive
  deriving DecidableEq, Repr

/-- code of a kind of failure -/
def FailureKind.code : FailureKind → String
  | .general => "T000"
  | .unsupportedConstruct => "T001"
  | .invalidName => "T002"
  | .multipleInheritance => "T003"
  | .unknownPrimitive => "T004"

/-- why a construct is not translated -/
inductive Cause where
  | statement (title : String)
  | child (title : String)
  | untyped (label : String)
  | unknownBase (name : Schema.QName)
  | notSymbol (name : String)
  | clash (name : String) (path other : List String)
  | multipleBases (label : String)
  | unknownKind (name : String)
  deriving DecidableEq, Repr

namespace Cause

/-- kind of a cause -/
def kind : Cause → FailureKind
  | .statement _ | .child _ | .untyped _ | .unknownBase _ => .unsupportedConstruct
  | .notSymbol _ | .clash .. => .invalidName
  | .multipleBases _ => .multipleInheritance
  | .unknownKind _ => .unknownPrimitive

/-- wording of a cause -/
def message : Cause → String
  | .statement title => "statement of type [" ++ title ++ "] not supported"
  | .child title => "container child of type [" ++ title ++ "] not supported"
  | .untyped label => label ++ " has no type"
  | .unknownBase name => "unknown base identity " ++ name.clark
  | .notSymbol name => "invalid name: " ++ name
  | .clash name path other =>
    "name " ++ name ++ " of " ++ "/".intercalate path ++ " clashes with " ++ "/".intercalate other
  | .multipleBases label => "multiple inheritance is not supported [" ++ label ++ "]"
  | .unknownKind name => "unknown primitive type [" ++ name ++ "]"

end Cause

/-- a failed translation: a cause at a path, or a name that the design already holds -/
inductive Failure where
  | untranslatable (cause : Cause) (path : List String)
  | duplicate (name : SymbolicName)
  deriving DecidableEq, Repr

/-- a message with the code of its kind -/
def FailureKind.message (k : FailureKind) (text : String) : String :=
  "[" ++ k.code ++ "] " ++ text

/-- wording of a failure -/
def Failure.message : Failure → String
  | .untranslatable cause _ => cause.kind.message cause.message
  | .duplicate name => ModelDocument.duplicateMessage name

end YangDesign.Translate
