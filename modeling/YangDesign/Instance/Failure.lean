/-
Why instance data does not fit a schema.
-/
import YangDesign.Schema.Resolve
import YangDesign.Value

namespace YangDesign.Instance

/-- why a member or value is refused -/
inductive DataCause where
  | unqualified (member : String)
  | unknownModule (name : String)
  | unknownMember (member : String)
  | notObject (kindName : String)
  | listNotArray
  | leafListNotArray
  | noData (name : String)
  | expected (kind : String) (found : Value)
  | outOfRange (n : Int) (kind : String)
  | notEmpty
  | notLabel (found : Value)
  | notScalar
  deriving Repr

/-- wording of a cause -/
def DataCause.message : DataCause → String
  | .unqualified member => "top-level member '" ++ member ++ "' must be qualified with a module name"
  | .unknownModule name => "unknown module '" ++ name ++ "'"
  | .unknownMember member => "unknown member '" ++ member ++ "'"
  | .notObject kindName => "expected an object, got " ++ kindName
  | .listNotArray => "list data must be an array"
  | .leafListNotArray => "leaf-list data must be an array"
  | .noData name => "'" ++ name ++ "' cannot carry data"
  | .expected kind found => "expected " ++ kind ++ ", got " ++ found.literal
  | .outOfRange n kind => toString n ++ " is out of range for " ++ kind
  | .notEmpty => "empty leaf must be encoded as [null]"
  | .notLabel found => "'" ++ found.display ++ "' is not a valid enum"
  | .notScalar => "union value must be a scalar"

/-- whether a cause can be put into words: it must not show an integer of too many digits -/
def DataCause.isWritable : DataCause → Bool
  | .expected _ found => !found.isOversized
  | .outOfRange n _ => !(Value.int n).isOversized
  | .notLabel found => !found.isOversized
  | _ => true

/-- a failed decoding: a cause at a path, a cause that cannot be put into words, or a member name that is no text -/
inductive DataFailure where
  | misfit (cause : DataCause) (path : List String)
  | unwritable
  | memberNotText (name : Value)
  deriving Repr

/-- the failure of a cause at a path -/
def DataFailure.of (path : List String) (cause : DataCause) : DataFailure :=
  if cause.isWritable then .misfit cause path else .unwritable

/-- wording of a failure -/
def DataFailure.message : DataFailure → String
  | .misfit cause path => Schema.located path cause.message
  | .unwritable => Number.digitLimitMessage ""
  | .memberNotText (.bytes _) => "a bytes-like object is required, not 'str'"
  | .memberNotText (.date _) => "argument of type 'datetime.date' is not iterable"
  | .memberNotText (.stamp _) => "argument of type 'datetime.datetime' is not iterable"
  | .memberNotText name => "argument of type '" ++ name.kindName ++ "' is not iterable"

end YangDesign.Instance
