/-
Reading of the text of scalars: without quotes, between single or double quotes, and as a literal or folded block.

Inside a scalar a single line end becomes a blank, and of several the first is dropped; a literal block keeps them all.
-/
import YangDesign.Number.Literal
import YangDesign.Text.Coded
import YangDesign.Yaml.Cursor

namespace YangDesign.Yaml

/-- what a line end and the empty lines after it add to a text: a blank if there are no empty lines -/
def foldedBreaks (lineEnd : Char) (empty : List Char) : List Char :=
  if lineEnd != '\n' then lineEnd :: empty
  else if empty.isEmpty then [' ']
  else empty

/-! ## Without quotes -/

/-- number of characters ahead that belong to a plain scalar -/
def plainLength (inFlow : Bool) : List Char → Nat
  | [] => 0
  | c :: cs =>
    let ends := isSpace c || isBreak c || (inFlow && ",?[]\x7b\x7d".toList.contains c) ||
      (c = ':' && (endsToken cs.head? || (inFlow && cs.head?.any ",[]\x7b\x7d".toList.contains)))
    if ends then 0 else plainLength inFlow cs + 1

/-- empty lines ahead with the blanks before the next text; none if a document ends there -/
def readPlainBreaks : Nat → Reader (Option (List Char))
  | 0 => return some []
  | fuel + 1 => do
    passWhile (· = ' ')
    match ← takeBreak with
    | none => return some []
    | some b =>
      if (← get).atDocumentMark then return none
      return (← readPlainBreaks fuel).map (b :: ·)

/-- what stands between two parts of a plain scalar, and whether a line end is part of it -/
def readPlainGap : Reader (List Char × Bool) := do
  let blanks ← takeAhead (· = ' ')
  match ← takeBreak with
  | none => return (blanks, false)
  | some b =>
    if (← get).atDocumentMark then return ([], true)
    match ← readPlainBreaks (← ahead) with
    | none => return ([], true)
    | some empty => return (foldedBreaks b empty, true)

/-- parts of a plain scalar from `gap` on, and whether the last thing read is a line end -/
def readPlainParts (inFlow : Bool) (indent : Int) : Nat → List Char → Bool → Reader (List Char × Bool)
  | 0, _, broken => return ([], broken)
  | fuel + 1, gap, broken => do
    let c ← get
    let n := plainLength inFlow c.rest
    if c.peek 0 == some '#' || n = 0 then return ([], broken)
    let part := c.rest.take n
    advance n
    let (next, broken) ← readPlainGap
    let c ← get
    if next.isEmpty || c.peek 0 == some '#' || (!inFlow && c.column < indent) then return (gap ++ part, broken)
    let (more, broken) ← readPlainParts inFlow indent fuel next broken
    return (gap ++ part ++ more, broken)

/-- a plain scalar whose further lines are indented by at least `indent`, and whether a line end follows its last part -/
def readPlain (inFlow : Bool) (indent : Int) : Reader (String × Bool) := do
  let (cs, broken) ← readPlainParts inFlow indent (← ahead) [] false
  return (.ofList cs, broken)

/-! ## Between quotes -/

/-- characters that an escape of one letter stands for -/
def escapes : List (Char × Char) := [
  ('0', '\x00'), ('a', '\x07'), ('b', '\x08'), ('t', '\t'), ('\t', '\t'), ('n', '\n'), ('v', '\x0b'), ('f', '\x0c'),
  ('r', '\r'), ('e', '\x1b'), (' ', ' '), ('\x22', '\x22'), ('\\', '\\'), ('/', '/'), ('N', '\x85'), ('_', '\xa0'),
  ('L', '\u2028'), ('P', '\u2029')]

/-- number of hexadecimal digits of an escape -/
def escapeDigits : List (Char × Nat) :=
  [('x', 2), ('u', 4), ('U', 8)]

/-- a number of hexadecimal digits -/
def readHex (n : Nat) : Reader Nat := do
  let cs := (← get).rest.take n
  match Number.digitsIn? 16 cs with
  | some ds =>
    demand (cs.length = n)
    advance n
    return Number.ofDigits 16 ds
  | none => throw .malformed

/-- numbers from this one on do not fit a word -/
def wordLimit : Nat := Nat.pow 2 31

/-- the code point of a number -/
def readCodePoint (digits : Nat) : Reader Nat := do
  let n ← readHex digits
  if wordLimit ≤ n then throw .beyondWords
  if 0x10FFFF < n then throw .beyondCharacters
  return n

/-- empty lines between quotes; a document must not end there -/
def readQuotedBreaks : Nat → Reader (List Char)
  | 0 => return []
  | fuel + 1 => do
    demand !(← get).atDocumentMark
    passWhile isSpace
    match ← takeBreak with
    | some b => return b :: (← readQuotedBreaks fuel)
    | none => return []

/-- code points of characters -/
def codesOf (cs : List Char) : List Nat :=
  cs.map Char.toNat

/-- an escape between double quotes; its backslash is passed -/
def readEscape : Reader (List Nat) := do
  match ← look 0 with
  | none => throw .malformed
  | some c =>
    if isBreak c then
      let _ ← takeBreak
      return codesOf (← readQuotedBreaks (← ahead))
    else
      advance 1
      match escapes.lookup c, escapeDigits.lookup c with
      | some d, _ => return [d.toNat]
      | none, some n => return [← readCodePoint n]
      | none, none => throw .malformed

/-- blanks and line ends between quotes -/
def readQuotedGap : Reader (List Nat) := do
  let blanks ← takeAhead isSpace
  match ← takeBreak with
  | some b => return codesOf (foldedBreaks b (← readQuotedBreaks (← ahead)))
  | none => return codesOf blanks

/-- characters that have no meaning of their own between quotes -/
def isOrdinary (c : Char) : Bool :=
  !(isSpace c || isBreak c || c = '\x27' || c = '\x22' || c = '\\')

/-- the text up to the closing quote, at most `fuel` parts of it -/
def readQuotedParts (double : Bool) : Nat → Reader (List Nat)
  | 0 => throw .malformed
  | fuel + 1 => do
    match ← look 0 with
    | none => throw .malformed
    | some c =>
      let part ←
        if isOrdinary c then pure (codesOf (← takeAhead isOrdinary))
        else if isSpace c || isBreak c then readQuotedGap
        else if !double && c = '\x27' && (← look 1) == some '\x27' then do
          advance 2
          pure ['\x27'.toNat]
        else if c = (if double then '\x22' else '\x27') then return []
        else if double && c = '\\' then do
          advance 1
          readEscape
        else do
          advance 1
          pure [c.toNat]
      return part ++ (← readQuotedParts double fuel)

/-- a scalar between quotes; the opening quote is ahead -/
def readQuoted (double : Bool) : Reader Text.Coded := do
  advance 1
  let codes ← readQuotedParts double (← ahead)
  advance 1
  return .ofCodes codes

/-! ## Blocks -/

/-- what to do with the line ends at the end of a block -/
inductive Chomping where
  | strip
  | clip
  | keep
  deriving DecidableEq, Repr

/-- how a block ends, if it says so -/
def readChomping : Reader (Option Chomping) := do
  match ← look 0 with
  | some '+' =>
    advance 1
    return some .keep
  | some '-' =>
    advance 1
    return some .strip
  | _ => return none

/-- by how much a block is indented, if it says so -/
def readIncrement : Reader (Option Nat) := do
  match ← look 0 with
  | some c =>
    if c.isDigit then
      demand (c != '0')
      advance 1
      return some (c.toNat - 48)
    else return none
  | none => return none

/-- the indicators after the mark of a block, in either order -/
def readBlockHeader : Reader (Chomping × Option Nat) := do
  let first ← readChomping
  let increment ← readIncrement
  let chomping ← match first with
    | some c => pure (some c)
    | none => if increment.isSome then readChomping else pure none
  demand (endsWord (← look 0))
  return (chomping.getD .clip, increment)

/-- empty lines before a block, and the deepest indentation seen up to its first text -/
def readLeadingBreaks : Nat → Nat → Reader (List Char × Nat)
  | 0, deepest => return ([], deepest)
  | fuel + 1, deepest => do
    passWhile (· = ' ')
    let deepest := max deepest (← get).column
    match ← takeBreak with
    | some b =>
      let (bs, deepest) ← readLeadingBreaks fuel deepest
      return (b :: bs, deepest)
    | none => return ([], deepest)

/-- moves over blanks up to a column -/
def passIndent (indent : Nat) : Reader Unit := do
  let c ← get
  let blanks := c.rest.takeWhile (· = ' ')
  advance (min blanks.length (indent - c.column))

/-- empty lines of a block, and its indentation on the next line -/
def readBlockBreaks (indent : Nat) : Nat → Reader (List Char)
  | 0 => return []
  | fuel + 1 => do
    passIndent indent
    match ← takeBreak with
    | some b => return b :: (← readBlockBreaks indent fuel)
    | none => return []

/-- whether a line of a block is ahead -/
def Cursor.atBlockLine (indent : Nat) (c : Cursor) : Bool :=
  c.column == indent && !c.rest.isEmpty

/-- the lines of a block after some empty lines: its text up to the last line end, that line end, and the empty lines after -/
def readBlockLines (folded : Bool) (indent : Nat) :
    Nat → List Char → Reader (List Char × Option Char × List Char)
  | 0, empty => return ([], none, empty)
  | fuel + 1, empty => do
    let indented := (← look 0).any isSpace
    let line ← takeAhead (!isBreak ·)
    let lineEnd ← takeBreak
    let next ← readBlockBreaks indent (← ahead)
    let c ← get
    if c.atBlockLine indent then
      let joined :=
        if folded && lineEnd == some '\n' && !indented && !(c.peek 0).any isSpace then
          if next.isEmpty then [' '] else []
        else lineEnd.toList
      let (text, last) ← readBlockLines folded indent fuel next
      return (empty ++ line ++ joined ++ text, last)
    else return (empty ++ line, lineEnd, next)

/-- a block scalar inside a block indented by `parent`; its mark is ahead -/
def readBlock (folded : Bool) (parent : Int) : Reader String := do
  advance 1
  let (chomping, increment) ← readBlockHeader
  passIgnoredLine
  let least := max 1 (parent + 1).toNat
  let (empty, indent) ← match increment with
    | some n => do
      let indent := least + n - 1
      pure (← readBlockBreaks indent (← ahead), indent)
    | none => do
      let (empty, deepest) ← readLeadingBreaks (← ahead) 0
      pure (empty, max least deepest)
  let (text, lineEnd, after) ←
    if (← get).atBlockLine indent then readBlockLines folded indent (← ahead) empty
    else pure ([], none, empty)
  return .ofList (match chomping with
    | .strip => text
    | .clip => text ++ lineEnd.toList
    | .keep => text ++ lineEnd.toList ++ after)

end YangDesign.Yaml
