/-
The smallest parts of an XML document: names, literals, references, comments and processing instructions.

Every function takes the characters that are left and gives what it has read together with the rest; none tells that the
document is not well formed. What is well formed but irregular is only noted.
-/
import YangDesign.Number.Literal
import YangDesign.Xml.Char

namespace YangDesign.Xml

/-- how grave an irregularity is -/
inductive Note where
  | warning
  | error
  deriving DecidableEq, Repr

/-- what follows a fixed text -/
def after? (mark : List Char) (cs : List Char) : Option (List Char) :=
  if mark.isPrefixOf cs then some (cs.drop mark.length) else none

/-- what stands before the first occurrence of a mark, and what follows it; `before` has been passed, last first -/
def splitFrom? (mark before : List Char) : List Char → Option (List Char × List Char)
  | [] => none
  | c :: cs =>
    if mark.isPrefixOf (c :: cs) then some (before.reverse, (c :: cs).drop mark.length) else splitFrom? mark (c :: before) cs

/-- what stands before the first occurrence of a mark, and what follows it -/
def splitAt? (mark cs : List Char) : Option (List Char × List Char) :=
  splitFrom? mark [] cs

/-- white space skipped -/
def skipSpace (cs : List Char) : List Char :=
  cs.dropWhile isSpace

/-- white space skipped, of which there must be some -/
def needSpace? (cs : List Char) : Option (List Char) :=
  if cs.head?.any isSpace then some (skipSpace cs) else none

/-- a name, in which colons may stand anywhere, and the rest -/
def takeName? (cs : List Char) : Option (String × List Char) :=
  if cs.head?.any isColonNameStart then some (.ofList (cs.takeWhile isColonNamePart), cs.dropWhile isColonNamePart) else none

/-- a word of characters that stand in names, and the rest -/
def takeWord? (cs : List Char) : Option (String × List Char) :=
  if cs.head?.any isColonNamePart then some (.ofList (cs.takeWhile isColonNamePart), cs.dropWhile isColonNamePart) else none

/-- a quotation mark around a literal -/
def isQuote (c : Char) : Bool :=
  c = '\x22' || c = '\x27'

/-- a text between quotation marks, and the rest -/
def takeLiteral? : List Char → Option (List Char × List Char)
  | mark :: cs => if isQuote mark then splitAt? [mark] cs else none
  | [] => none

/-! ## References -/

/-- what a reference stands for: a character, or an entity by its name -/
inductive Reference where
  | char (c : Char)
  | entity (name : String)
  deriving DecidableEq, Repr

/-- the entities that every document has -/
def ownEntities : List (String × Char) :=
  [("amp", '&'), ("lt", '<'), ("gt", '>'), ("quot", '\x22'), ("apos", '\x27')]

/-- the character of a numeric reference -/
def numericReference? (cs : List Char) : Option Char := do
  let (base, ds) ← match cs with
    | 'x' :: cs => (Number.digitsIn? 16 cs).map fun ds => (16, ds)
    | cs => (Number.digitsIn? 10 cs).map fun ds => (10, ds)
  guard !ds.isEmpty
  let n := Number.ofDigits base ds
  guard n.isValidChar
  let c := Char.ofNat n
  guard (isChar c)
  return c

/-- a numeric reference after its mark `&#`, and the rest -/
def takeNumeric? (cs : List Char) : Option (Char × List Char) := do
  let digits := cs.takeWhile (· != ';')
  let (_ :: rest) := cs.drop digits.length | none
  return (← numericReference? digits, rest)

/-- the name of an entity after the mark of its reference, and the rest -/
def takeEntityName? (cs : List Char) : Option (String × List Char) := do
  let (name, cs) ← takeName? cs
  let (';' :: rest) := cs | none
  return (name, rest)

/-- a reference after its ampersand, and the rest -/
def takeReference? : List Char → Option (Reference × List Char)
  | '#' :: cs => (takeNumeric? cs).map fun (c, rest) => (.char c, rest)
  | cs => (takeEntityName? cs).map fun (name, rest) => (((ownEntities.lookup name).map .char).getD (.entity name), rest)

/-- a part of an attribute value: characters, or a reference to an entity -/
inductive Part where
  | text (cs : List Char)
  | entity (name : String)
  deriving DecidableEq, Repr

/-- the part that a reference is -/
def Reference.part : Reference → Part
  | .char c => .text [c]
  | .entity name => .entity name

/-- the parts of an attribute value, in which white space is blanks and `<` does not stand; each part takes at least one
character, so `fuel` may be their number -/
def takeParts? : Nat → List Char → Option (List Part)
  | _, [] => some []
  | 0, _ => none
  | fuel + 1, '&' :: cs => do
    let (r, rest) ← takeReference? cs
    return r.part :: (← takeParts? fuel rest)
  | fuel + 1, cs => do
    let run := cs.takeWhile (· != '&')
    guard (run.all fun c => isChar c && c != '<')
    return .text (run.map fun c => if isSpace c then ' ' else c) :: (← takeParts? fuel (cs.drop run.length))

/-- the parts of an attribute value -/
def parts? (cs : List Char) : Option (List Part) :=
  takeParts? cs.length cs

/-! ## Remarks -/

/-- whether two hyphens stand side by side in a comment, or one at its end -/
def hasDoubleHyphen : List Char → Bool
  | '-' :: '-' :: _ => true
  | ['-'] => true
  | _ :: cs => hasDoubleHyphen cs
  | [] => false

/-- a comment after its opening mark -/
def skipComment? (cs : List Char) : Option (List Char) := do
  let (body, rest) ← splitAt? "-->".toList cs
  guard (!hasDoubleHyphen body && body.all isChar)
  return rest

/-- targets that begin with `xml` by right -/
def reservedTargets : List String :=
  ["xml-stylesheet", "xml-model"]

/-- what is to be noted of the target of a processing instruction; `xml` is none, whatever its case -/
def targetNote? (target : String) : Option (Option Note) :=
  let lower := target.toList.map Char.toLower
  if lower = "xml".toList then none
  else if reservedTargets.contains target then some none
  else if target.contains ':' then some (some .error)
  else if "xml".toList.isPrefixOf lower then some (some .warning)
  else some none

/-- a processing instruction after its opening mark: what is to be noted of it, and the rest -/
def takeInstruction? (cs : List Char) : Option (Option Note × List Char) := do
  let (target, cs) ← takeName? cs
  let note ← targetNote? target
  let (body, rest) ← splitAt? "?>".toList cs
  guard ((body.isEmpty || body.head?.any isSpace) && body.all isChar)
  return (note, rest)

/-- a comment or processing instruction, if there is one, and the rest -/
def takeRemark? (cs : List Char) : Option (Option Note × List Char) :=
  match after? "<!--".toList cs, after? "<?".toList cs with
  | some cs, _ => (skipComment? cs).map (none, ·)
  | none, some cs => takeInstruction? cs
  | none, none => none

end YangDesign.Xml
