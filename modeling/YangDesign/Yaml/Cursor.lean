/-
A place in a text with what follows it, and the character classes that structure depends on.

The end of the text is seen as `none` and counts as the end of a line.
-/
import YangDesign.Yaml.Fault

namespace YangDesign.Yaml

/-- line ends: line feed, carriage return, next line, and the separators of lines and paragraphs -/
def isBreak (c : Char) : Bool :=
  c = '\n' || c = '\r' || c = '\x85' || c = '\u2028' || c = '\u2029'

/-- a blank or a tab -/
def isSpace (c : Char) : Bool :=
  c = ' ' || c = '\t'

/-- a line end or the end of the text -/
def endsLine : Option Char → Bool
  | none => true
  | some c => isBreak c

/-- a blank, a line end or the end of the text -/
def endsWord : Option Char → Bool
  | none => true
  | some c => c = ' ' || isBreak c

/-- a blank, a tab, a line end or the end of the text -/
def endsToken : Option Char → Bool
  | none => true
  | some c => isSpace c || isBreak c

/-- letters, digits, hyphen and underscore of ASCII -/
def isWordPart (c : Char) : Bool :=
  c.isAlphanum || c = '-' || c = '_'

/-- a place in a text: how many characters, lines and columns come before it, and how many characters follow and which -/
structure Cursor where
  index : Nat
  line : Nat
  column : Nat
  left : Nat
  rest : List Char
  deriving DecidableEq, Repr

namespace Cursor

/-- the start of a text -/
def start (cs : List Char) : Cursor :=
  ⟨0, 0, 0, cs.length, cs⟩

/-- the character `n` places ahead -/
def peek (c : Cursor) (n : Nat) : Option Char :=
  c.rest[n]?

/-- the place after one character; the two characters of a combined line end make one line -/
def step (c : Cursor) : Cursor :=
  match c.rest with
  | [] => c
  | ch :: cs =>
    if isBreak ch && !(ch = '\r' && cs.head? == some '\n') then ⟨c.index + 1, c.line + 1, 0, c.left - 1, cs⟩
    else ⟨c.index + 1, c.line, if ch = '\uFEFF' then c.column else c.column + 1, c.left - 1, cs⟩

/-- the place after `n` characters -/
def skip : Nat → Cursor → Cursor
  | 0, c => c
  | n + 1, c => skip n c.step

/-- the characters ahead that satisfy a test, and the place after them -/
def span (p : Char → Bool) (c : Cursor) : List Char × Cursor :=
  let taken := c.rest.takeWhile p
  (taken, c.skip taken.length)

/-- the place after the characters that satisfy a test -/
def skipWhile (p : Char → Bool) (c : Cursor) : Cursor :=
  (c.span p).2

/-- the line end ahead, in one form, and the place after it -/
def lineBreak? (c : Cursor) : Option (Char × Cursor) :=
  match c.rest with
  | '\r' :: '\n' :: _ => some ('\n', c.skip 2)
  | ch :: _ =>
    if ch = '\n' || ch = '\r' || ch = '\x85' then some ('\n', c.step)
    else if isBreak ch then some (ch, c.step)
    else none
  | [] => none

/-- whether three of a mark stand ahead as a token -/
def hasMark (c : Cursor) (mark : Char) : Bool :=
  c.rest.take 3 == [mark, mark, mark] && endsToken (c.peek 3)

/-- whether the end or start of a document stands ahead, at the start of a line -/
def atDocumentMark (c : Cursor) : Bool :=
  c.hasMark '-' || c.hasMark '.'

end Cursor

/-! ## Reading -/

/-- reading of something ahead, which may fail and moves the cursor -/
abbrev Reader (α : Type) := StateT Cursor (Except Fault) α

/-- a failure unless a condition holds -/
def demand (condition : Bool) : Reader Unit :=
  if condition then return () else throw .malformed

/-- the character `n` places ahead -/
def look (n : Nat) : Reader (Option Char) :=
  return (← get).peek n

/-- moves over `n` characters -/
def advance (n : Nat) : Reader Unit :=
  modify (Cursor.skip n)

/-- the characters ahead that satisfy a test, and moves over them -/
def takeAhead (p : Char → Bool) : Reader (List Char) :=
  modifyGet (Cursor.span p)

/-- moves over the characters that satisfy a test -/
def passWhile (p : Char → Bool) : Reader Unit :=
  modify (Cursor.skipWhile p)

/-- the line end ahead, if there is one, and moves over it -/
def takeBreak : Reader (Option Char) :=
  modifyGet fun c => match c.lineBreak? with
    | some (b, c) => (some b, c)
    | none => (none, c)

/-- moves over the rest of a line that may hold blanks and a comment -/
def passIgnoredLine : Reader Unit := do
  passWhile (· = ' ')
  if (← look 0) == some '#' then passWhile (!isBreak ·)
  demand (endsLine (← look 0))
  let _ ← takeBreak

/-- an upper bound for the number of things ahead -/
def ahead : Reader Nat :=
  return (← get).left + 1

end YangDesign.Yaml
