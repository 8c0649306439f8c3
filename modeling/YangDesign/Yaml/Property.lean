/-
Reading of what goes before a node or a document: directives, tags, anchors and aliases.

A tag is a handle with a suffix, or a whole URI between angle brackets. A URI may hold escaped bytes, which are UTF-8.
-/
import YangDesign.Number.Literal
import YangDesign.Yaml.Cursor
import YangDesign.Yaml.Token

namespace YangDesign.Yaml

/-- characters of a URI -/
def isUriPart (c : Char) : Bool :=
  c.isAlphanum || "-;/?:@&=+$,_.!~*'()[]".toList.contains c

/-- the value of two hexadecimal digits -/
def byte? (a b : Option Char) : Option UInt8 := do
  let ds ← Number.digitsIn? 16 [← a, ← b]
  return UInt8.ofNat (Number.ofDigits 16 ds)

/-- escaped bytes ahead, at most `fuel` -/
def readEscapedBytes : Nat → Reader (List UInt8)
  | 0 => return []
  | fuel + 1 => do
    if (← look 0) != some '%' then return []
    match byte? (← look 1) (← look 2) with
    | some b => do
      advance 3
      return b :: (← readEscapedBytes fuel)
    | none => throw .malformed

/-- characters and escaped bytes of a URI, at most `fuel` runs of them -/
def readUriParts : Nat → Reader (List Char)
  | 0 => return []
  | fuel + 1 => do
    let run ← takeAhead isUriPart
    if (← look 0) != some '%' then return run
    let bs ← readEscapedBytes (← ahead)
    match String.fromUTF8? ⟨bs.toArray⟩ with
    | some s => return run ++ s.toList ++ (← readUriParts fuel)
    | none => throw .malformed

/-- a URI, not empty -/
def readUri : Reader String := do
  let next ← look 0
  demand (next == some '%' || next.any isUriPart)
  return .ofList (← readUriParts (← ahead))

/-- a tag handle: an exclamation mark, or a word between two of them -/
def readHandle : Reader String := do
  demand ((← look 0) == some '!')
  advance 1
  let word ← takeAhead isWordPart
  let next ← look 0
  if next == some '!' then
    advance 1
    return .ofList ('!' :: (word ++ ['!']))
  else
    demand (word.isEmpty && next == some ' ')
    return "!"

/-- whether an exclamation mark comes before the next blank or line end -/
def hasHandle (cs : List Char) : Bool :=
  (cs.takeWhile fun c => !(c = ' ' || isBreak c)).contains '!'

/-- the parts of a tag; its exclamation mark is ahead -/
def readTagParts : Reader Token := do
  let next ← look 1
  if next == some '<' then
    advance 2
    let uri ← readUri
    demand ((← look 0) == some '>')
    advance 1
    return .tag none uri
  else if endsToken next then
    advance 1
    return .tag none "!"
  else if hasHandle ((← get).rest.drop 1) then
    let handle ← readHandle
    return .tag (some handle) (← readUri)
  else
    advance 1
    return .tag (some "!") (← readUri)

/-- a tag; its exclamation mark is ahead -/
def readTag : Reader Token := do
  let tag ← readTagParts
  demand (endsWord (← look 0))
  return tag

/-- whether a character may follow an anchor or alias -/
def endsAnchor (next : Option Char) : Bool :=
  endsToken next || next.any "?:,]\x7d%@\x60".toList.contains

/-- the name of an anchor or alias; its indicator is ahead -/
def readAnchor : Reader String := do
  advance 1
  let name ← takeAhead isWordPart
  demand (!name.isEmpty && endsAnchor (← look 0))
  return .ofList name

/-- a number of ASCII digits -/
def readDigits : Reader Nat := do
  let ds ← takeAhead Char.isDigit
  demand !ds.isEmpty
  if ds.length > Number.maxIntegerDigits then throw (.tooManyDigits ds.length)
  return Number.ofDigits 10 (ds.map fun d => d.toNat - 48)

/-- the numbers of a version -/
def readVersion : Reader Directive := do
  passWhile (· = ' ')
  let major ← readDigits
  demand ((← look 0) == some '.')
  advance 1
  let minor ← readDigits
  demand (endsWord (← look 0))
  return .version major minor

/-- a tag handle and what it stands for -/
def readTagDirective : Reader Directive := do
  passWhile (· = ' ')
  let handle ← readHandle
  demand ((← look 0) == some ' ')
  passWhile (· = ' ')
  let start ← readUri
  demand (endsWord (← look 0))
  return .tag handle start

/-- a directive with its line; its percent sign is ahead -/
def readDirective : Reader Directive := do
  advance 1
  let name ← takeAhead isWordPart
  demand (!name.isEmpty && endsWord (← look 0))
  let directive ← match String.ofList name with
    | "YAML" => readVersion
    | "TAG" => readTagDirective
    | _ => do
      passWhile (!isBreak ·)
      pure .reserved
  passIgnoredLine
  return directive

end YangDesign.Yaml
