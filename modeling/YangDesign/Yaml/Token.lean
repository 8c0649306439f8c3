/-
The tokens of a document: indicators, properties, scalars, and the starts and ends of blocks that indentation implies.
-/
import YangDesign.Text.Coded

namespace YangDesign.Yaml

/-- a directive before a document -/
inductive Directive where
  | version (major minor : Nat)
  | tag (handle start : String)
  | reserved
  deriving DecidableEq, Repr

/-- a token; a scalar is `plain` if it is written without quotes and not as a block -/
inductive Token where
  | directive (d : Directive)
  | documentStart
  | documentEnd
  | blockSequenceStart
  | blockMappingStart
  | blockEnd
  | flowSequenceStart
  | flowSequenceEnd
  | flowMappingStart
  | flowMappingEnd
  | blockEntry
  | flowEntry
  | key
  | value
  | alias (name : String)
  | anchor (name : String)
  | tag (handle : Option String) (suffix : String)
  | scalar (text : Text.Coded) (plain : Bool)
  deriving DecidableEq, Repr

end YangDesign.Yaml
