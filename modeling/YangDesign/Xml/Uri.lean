/-
URI references (RFC 3986), as far as it takes to tell them from other texts.

A reference is a URI, which starts with a scheme, or a relative reference, whose first path segment holds no colon.
-/
import YangDesign.Number.Literal

namespace YangDesign.Xml.Uri

/-- letters, digits and marks that stand for themselves -/
def isUnreserved (c : Char) : Bool :=
  c.isAlphanum || c = '-' || c = '.' || c = '_' || c = '~'

/-- delimiters within a component -/
def isDelimiter (c : Char) : Bool :=
  "!$&'()*+,;=".toList.contains c

/-- the rest after characters of a class and percent-encoded bytes -/
def skipWhile (p : Char → Bool) : List Char → List Char
  | '%' :: a :: b :: cs =>
    if (Number.asciiDigit? 16 a).isSome && (Number.asciiDigit? 16 b).isSome then skipWhile p cs else '%' :: a :: b :: cs
  | c :: cs => if p c then skipWhile p cs else c :: cs
  | [] => []

/-- a character of a path segment -/
def isSegmentChar (c : Char) : Bool :=
  isUnreserved c || isDelimiter c || c = ':' || c = '@'

/-- the rest after path segments, slashes included -/
def skipPath (cs : List Char) : List Char :=
  skipWhile (fun c => isSegmentChar c || c = '/') cs

/-- the rest after the port of an authority, if there is one -/
def skipPort : List Char → Option (List Char)
  | ':' :: cs => if (cs.takeWhile Char.isDigit).isEmpty then none else some (cs.dropWhile Char.isDigit)
  | cs => some cs

/-- the rest after the host of an authority -/
def skipHost : List Char → Option (List Char)
  | '[' :: cs =>
    match cs.dropWhile (· != ']') with
    | _ :: rest => some rest
    | [] => none
  | cs => some (skipWhile (fun c => isUnreserved c || isDelimiter c) cs)

/-- the rest after an authority: user, host and port -/
def skipAuthority (cs : List Char) : Option (List Char) := do
  let cs := match skipWhile (fun c => isUnreserved c || isDelimiter c || c = ':') cs with
    | '@' :: rest => rest
    | _ => cs
  skipPort (← skipHost cs)

/-- nothing, or a query and a fragment -/
def isTail (cs : List Char) : Bool :=
  let cs := match cs with
    | '?' :: rest => skipWhile (fun c => isSegmentChar c || c = '/' || c = '?') rest
    | cs => cs
  match cs with
  | '#' :: rest =>
    (skipWhile (fun c => isSegmentChar c || c = '/' || c = '?' || c = '[' || c = ']') rest).isEmpty
  | cs => cs.isEmpty

/-- what may follow an authority or a scheme: a path, a query and a fragment -/
def isPathAndTail (cs : List Char) : Bool :=
  match cs with
  | '/' :: _ => isTail (skipPath cs)
  | cs => isTail cs

/-- what may follow a scheme -/
def isHierarchy (cs : List Char) : Bool :=
  match cs with
  | '/' :: '/' :: rest =>
    match skipAuthority rest with
    | some rest => isPathAndTail rest
    | none => false
  | cs => isTail (skipPath cs)

/-- a URI: a scheme and what follows it -/
def isAbsolute (cs : List Char) : Bool :=
  match cs with
  | c :: _ =>
    c.isAlpha && match cs.dropWhile fun c => c.isAlphanum || c = '+' || c = '-' || c = '.' with
      | ':' :: rest => isHierarchy rest
      | _ => false
  | [] => false

/-- a relative reference: no colon in the first segment of its path -/
def isRelative (cs : List Char) : Bool :=
  match cs with
  | '/' :: _ => isHierarchy cs
  | cs =>
    let rest := skipWhile (fun c => isSegmentChar c && c != ':') cs
    match rest with
    | '/' :: _ => cs.length != rest.length && isTail (skipPath rest)
    | rest => isTail rest

/-- whether a text is a URI reference -/
def isReference (s : String) : Bool :=
  isAbsolute s.toList || isRelative s.toList

end YangDesign.Xml.Uri
