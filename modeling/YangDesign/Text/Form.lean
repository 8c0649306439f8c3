/-
The forms a name may be required to have, each with the pattern that states it.

`Form.accepts` decides a form, `Form.pattern` is its wording in reports. All four admit ASCII only. `isSymbol` is the weaker
form of a generated name, which admits letters and numerals of all scripts.
-/
import YangDesign.Text.Letter

namespace YangDesign.Text

/-- required form of a name -/
inductive Form where
  /-- YANG identifier (RFC 7950 section 6.2) -/
  | identifier
  /-- identifier with an optional module prefix -/
  | qualified
  /-- YANG keyword -/
  | keyword
  /-- name of a design -/
  | designName
  deriving DecidableEq, Repr

/-- first character of an identifier -/
def isNameStart (c : Char) : Bool :=
  c.isAlpha || c == '_'

/-- further character of an identifier -/
def isNamePart (c : Char) : Bool :=
  c.isAlphanum || c == '_' || c == '.' || c == '-'

/-- a nonempty text with `start` first and `part` after it -/
def hasShape (start part : Char → Bool) : List Char → Bool
  | [] => false
  | c :: cs => start c && cs.all part

/-- YANG identifier -/
def isIdentifier (cs : List Char) : Bool :=
  hasShape isNameStart isNamePart cs

/-- decides a form -/
def Form.accepts (form : Form) (s : String) : Bool :=
  match form with
  | .identifier => isIdentifier s.toList
  | .qualified =>
    match s.toList.dropWhile (· != ':') with
    | [] => isIdentifier s.toList
    | _ :: name => isIdentifier (s.toList.takeWhile (· != ':')) && isIdentifier name
  | .keyword => hasShape Char.isLower (fun c => c.isLower || c.isDigit || c == '-') s.toList
  | .designName => hasShape isNameStart (fun c => c.isAlphanum || c == '_') s.toList

/-- the pattern that states a form -/
def Form.pattern : Form → String
  | .identifier => "^[A-Za-z_][A-Za-z0-9_.\\-]*$"
  | .qualified => "^([A-Za-z_][A-Za-z0-9_.\\-]*:)?[A-Za-z_][A-Za-z0-9_.\\-]*$"
  | .keyword => "^[a-z][a-z0-9\\-]*$"
  | .designName => "^[A-Za-z_][A-Za-z0-9_]*$"

/-- a letter or underscore, then letters, numerals and underscores, of any script -/
def isSymbol (s : String) : Bool :=
  hasShape (fun c => isLetter c || c == '_') (fun c => isWordChar c || c == '_') s.toList

/-- the part before the first colon, if there is one, and the part after it -/
def splitQualified (s : String) : Option String × String :=
  match s.toList.dropWhile (· != ':') with
  | [] => (none, s)
  | _ :: name => (some (.ofList (s.toList.takeWhile (· != ':'))), .ofList name)

end YangDesign.Text
