/-
The tokens of the content of an XML document: tags, runs of text, references to entities, comments and processing
instructions.

What a token is does not hang on what the document declares: entities keep their names here.
-/
import YangDesign.Xml.Piece

namespace YangDesign.Xml

/-- a token; `blank` tells of a text that is white space as it is written -/
inductive Token where
  | openTag (name : String) (attributes : List (String × List Part)) (closed : Bool)
  | closeTag (name : String)
  | text (s : String) (blank : Bool)
  | entity (name : String)
  | remark (note : Option Note)
  deriving DecidableEq, Repr

/-- an attribute, and the rest -/
def takeAttribute? (cs : List Char) : Option ((String × List Part) × List Char) := do
  let (name, cs) ← takeName? cs
  let ('=' :: cs) := skipSpace cs | none
  let (value, cs) ← takeLiteral? (skipSpace cs)
  return ((name, ← parts? value), cs)

/-- the attributes of a start tag, whether it is closed, and the rest; each attribute takes at least one character, and so does
the end of the tag, so `fuel` may be the number of characters -/
def takeAttributes? : Nat → List Char → Option (List (String × List Part) × Bool × List Char)
  | 0, _ => none
  | fuel + 1, cs =>
    match skipSpace cs with
    | '>' :: rest => some ([], false, rest)
    | '/' :: '>' :: rest => some ([], true, rest)
    | _ => do
      let (a, rest) ← takeAttribute? (← needSpace? cs)
      let (as, closed, rest) ← takeAttributes? fuel rest
      return (a :: as, closed, rest)

/-- characters up to the next markup or reference, and the rest; `]]>` does not stand in them -/
def takeRun? (cs : List Char) : Option (Token × List Char) := do
  let run := cs.takeWhile fun c => c != '<' && c != '&'
  guard (run.all isChar && (splitAt? "]]>".toList run).isNone)
  return (.text (.ofList run) (run.all isSpace), cs.drop run.length)

/-- the token that a reference is -/
def Reference.token : Reference → Token
  | .char c => .text c.toString false
  | .entity name => .entity name

/-- characters without markup after their opening mark, and the rest -/
def takeVerbatim? (cs : List Char) : Option (Token × List Char) := do
  let (body, cs) ← splitAt? "]]>".toList cs
  guard (body.all isChar)
  return (.text (.ofList body) false, cs)

/-- one token, and the rest; `fuel` may be the number of characters -/
def takeToken? (fuel : Nat) (cs : List Char) : Option (Token × List Char) :=
  match cs with
  | '<' :: '/' :: cs => do
    let (name, cs) ← takeName? cs
    let ('>' :: cs) := skipSpace cs | none
    return (.closeTag name, cs)
  | '<' :: '?' :: cs => (takeInstruction? cs).map fun (note, cs) => (.remark note, cs)
  | '<' :: '!' :: cs =>
    match after? "--".toList cs with
    | some cs => (skipComment? cs).map fun cs => (.remark none, cs)
    | none => do takeVerbatim? (← after? "[CDATA[".toList cs)
  | '<' :: cs => do
    let (name, cs) ← takeName? cs
    let (attributes, closed, cs) ← takeAttributes? fuel cs
    return (.openTag name attributes closed, cs)
  | '&' :: cs => (takeReference? cs).map fun (r, cs) => (r.token, cs)
  | cs => takeRun? cs

/-- all tokens; each takes at least one character, so `fuel` may be the number of characters -/
def takeTokens? : Nat → List Char → Option (List Token)
  | _, [] => some []
  | 0, _ => none
  | fuel + 1, cs => do
    let (t, rest) ← takeToken? (fuel + 1) cs
    return t :: (← takeTokens? fuel rest)

/-- the tokens that a text consists of -/
def tokens? (cs : List Char) : Option (List Token) :=
  takeTokens? cs.length cs

/-- whether some tokens are a document: one element and besides it comments, processing instructions and white space; `depth`
elements are open, and `seen` tells whether there has been one -/
def isDocument : Nat → Bool → List Token → Bool
  | depth, seen, [] => depth = 0 && seen
  | depth + 1, seen, t :: ts =>
    match t with
    | .openTag _ _ false => isDocument (depth + 2) seen ts
    | .closeTag _ => isDocument depth seen ts
    | _ => isDocument (depth + 1) seen ts
  | 0, seen, t :: ts =>
    match t with
    | .openTag _ _ closed => !seen && isDocument (if closed then 0 else 1) true ts
    | .text _ blank => blank && isDocument 0 seen ts
    | .remark _ => isDocument 0 seen ts
    | .closeTag _ | .entity _ => false

end YangDesign.Xml
