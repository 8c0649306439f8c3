/-
The tokens of a text, with the starts and ends of blocks that its indentation implies, read one by one as they are asked for.

A key needs no indicator before it if it stands on one line, within 1024 characters, with its colon after it: wherever such
a key may begin, its place among the tokens is kept (`SimpleKey`), and when the colon comes the indicator is put in there. So a
token is decided, and may be taken, once it cannot be such a key any more; nothing further ahead is read before that.
-/
import YangDesign.Yaml.Property
import YangDesign.Yaml.ScalarText

namespace YangDesign.Yaml

/-- where a key may have begun; a required key is the only thing its line can be -/
structure SimpleKey where
  token : Nat
  required : Bool
  index : Nat
  line : Nat
  column : Nat
  deriving DecidableEq, Repr

/-- tokens that wait to be taken, open blocks and brackets, and where keys may have begun -/
structure Scan where
  cursor : Cursor
  /-- tokens read and not taken, the next one first -/
  waiting : List Token
  /-- number of tokens taken -/
  taken : Nat
  /-- whether the end of the text is reached -/
  ended : Bool
  /-- number of open brackets -/
  depth : Nat
  /-- column of the innermost block, -1 outside of blocks -/
  indent : Int
  /-- columns of the blocks around it -/
  outer : List Int
  keyAllowed : Bool
  /-- by number of open brackets -/
  keys : List (Nat × SimpleKey)
  deriving Repr

namespace Scan

/-- the start of a text; a byte order mark is passed over -/
def start (cs : List Char) : Scan :=
  let c := Cursor.start cs
  ⟨if cs.head? == some '\uFEFF' then c.step else c, [], 0, false, 0, -1, [], true, []⟩

/-- a step that reads and changes the state, or fails -/
abbrev Step (α : Type) := StateT Scan (Except Fault) α

/-- reads something ahead -/
def reading {α : Type} (r : Reader α) : Step α := do
  let s ← get
  let (a, c) ← r.run s.cursor
  set { s with cursor := c }
  return a

/-- adds a token -/
def emit (t : Token) : Step Unit :=
  modify fun s => { s with waiting := s.waiting ++ [t] }

/-- puts a token in before the one of a number -/
def insert (number : Nat) (t : Token) : Step Unit :=
  modify fun s => { s with waiting := s.waiting.insertIdx (number - s.taken) t }

/-- whether a key may begin at the next token -/
def allowKey (b : Bool) : Step Unit :=
  modify fun s => { s with keyAllowed := b }

/-- forgets the key that may have begun at this depth; one that is required must not be forgotten -/
def dropKey : Step Unit := do
  let s ← get
  match s.keys.lookup s.depth with
  | some k =>
    if k.required then throw .malformed
    set { s with keys := s.keys.filter (·.1 != s.depth) }
  | none => return ()

/-- keeps the place of a key that may begin here -/
def saveKey : Step Unit := do
  if (← get).keyAllowed then
    dropKey
    modify fun s =>
      let c := s.cursor
      let required := s.depth == 0 && s.indent == c.column
      { s with keys := (s.depth, ⟨s.taken + s.waiting.length, required, c.index, c.line, c.column⟩) :: s.keys }

/-- longest distance of a colon from the start of its key -/
def keyLimit : Nat := 1024

/-- forgets keys on earlier lines and keys too far back -/
def dropStaleKeys : Step Unit := do
  let s ← get
  let fresh (k : SimpleKey) := k.line == s.cursor.line && s.cursor.index - k.index ≤ keyLimit
  if s.keys.any fun (_, k) => !fresh k && k.required then throw .malformed
  set { s with keys := s.keys.filter fun (_, k) => fresh k }

/-- closes the blocks that are indented deeper than a column, the innermost first -/
def closeBlocks (column : Int) (s : Scan) : List Int → Scan
  | [] => s
  | i :: is =>
    if s.depth == 0 && s.indent > column then
      closeBlocks column { s with indent := i, outer := is, waiting := s.waiting ++ [.blockEnd] } is
    else s

/-- closes the blocks that are indented deeper than a column -/
def unwind (column : Int) : Step Unit :=
  modify fun s => closeBlocks column s s.outer

/-- opens a block at a column if it is deeper than the innermost one; tells whether it did -/
def openBlock (column : Nat) : Step Bool := do
  let s ← get
  if s.indent < column then
    set { s with indent := column, outer := s.indent :: s.outer }
    return true
  else return false

/-- moves over blanks, comments and line ends; after a line end a key may begin outside of brackets -/
def passBlank : Nat → Step Unit
  | 0 => return ()
  | fuel + 1 => do
    reading (passWhile (· = ' '))
    if (← get).cursor.peek 0 == some '#' then reading (passWhile (!isBreak ·))
    if (← reading takeBreak).isSome then
      if (← get).depth == 0 then allowKey true
      passBlank fuel

/-- closes everything before a directive or a document mark -/
def leaveDocument : Step Unit := do
  unwind (-1)
  dropKey
  allowKey false

/-- an indicator of `n` characters as a token -/
def indicator (n : Nat) (t : Token) : Step Unit := do
  reading (advance n)
  emit t

/-- an opening bracket -/
def openBracket (t : Token) : Step Unit := do
  saveKey
  modify fun s => { s with depth := s.depth + 1 }
  allowKey true
  indicator 1 t

/-- a closing bracket -/
def closeBracket (t : Token) : Step Unit := do
  dropKey
  modify fun s => { s with depth := s.depth - 1 }
  allowKey false
  indicator 1 t

/-- opens a block at the cursor, outside of brackets, where a key or entry is allowed -/
def openHere (opening : Token) : Step Unit := do
  let s ← get
  if s.depth == 0 then
    if !s.keyAllowed then throw .malformed
    if ← openBlock s.cursor.column then emit opening

/-- an entry of a block sequence -/
def blockEntry : Step Unit := do
  openHere .blockSequenceStart
  allowKey true
  dropKey
  indicator 1 .blockEntry

/-- a key with its indicator -/
def explicitKey : Step Unit := do
  openHere .blockMappingStart
  allowKey ((← get).depth == 0)
  dropKey
  indicator 1 .key

/-- a colon: makes a key of what may have been one -/
def value : Step Unit := do
  let s ← get
  match s.keys.lookup s.depth with
  | some k =>
    set { s with keys := s.keys.filter (·.1 != s.depth) }
    insert k.token .key
    if s.depth == 0 then
      if ← openBlock k.column then insert k.token .blockMappingStart
    allowKey false
  | none =>
    openHere .blockMappingStart
    allowKey ((← get).depth == 0)
    dropKey
  indicator 1 .value

/-- something that may be a key and after which none begins -/
def possibleKey (r : Reader Token) : Step Unit := do
  saveKey
  allowKey false
  emit (← reading r)

/-- a plain scalar; after one that ends its line a key may begin -/
def plainScalar : Step Unit := do
  saveKey
  let s ← get
  let (text, broken) ← reading (readPlain (s.depth != 0) (s.indent + 1))
  allowKey broken
  emit (.scalar (.text text) true)

/-- a block scalar -/
def blockScalar (folded : Bool) : Step Unit := do
  allowKey true
  dropKey
  let s ← get
  emit (.scalar (.text (← reading (readBlock folded s.indent))) false)

/-- whether a plain scalar starts ahead -/
def startsPlain (c : Cursor) (inFlow : Bool) : Bool :=
  match c.peek 0 with
  | none => false
  | some ch =>
    !(isSpace ch || isBreak ch || "-?:,[]\x7b\x7d#&*!|>'\"%@\x60".toList.contains ch) ||
      (!endsToken (c.peek 1) && (ch = '-' || (!inFlow && (ch = '?' || ch = ':'))))

/-- the token ahead, whose first character is `ch` -/
def token (ch : Char) : Step Unit := do
  let s ← get
  let c := s.cursor
  let inFlow := s.depth != 0
  let alone := endsToken (c.peek 1)
  if ch = '%' && c.column = 0 then
    leaveDocument
    emit (.directive (← reading readDirective))
  else if c.column = 0 && c.hasMark '-' then
    leaveDocument
    indicator 3 .documentStart
  else if c.column = 0 && c.hasMark '.' then
    leaveDocument
    indicator 3 .documentEnd
  else if ch = '[' then openBracket .flowSequenceStart
  else if ch = '\x7b' then openBracket .flowMappingStart
  else if ch = ']' then closeBracket .flowSequenceEnd
  else if ch = '\x7d' then closeBracket .flowMappingEnd
  else if ch = ',' then
    allowKey true
    dropKey
    indicator 1 .flowEntry
  else if ch = '-' && alone then blockEntry
  else if ch = '?' && (inFlow || alone) then explicitKey
  else if ch = ':' && (inFlow || alone) then value
  else if ch = '*' then possibleKey (return .alias (← readAnchor))
  else if ch = '&' then possibleKey (return .anchor (← readAnchor))
  else if ch = '!' then possibleKey readTag
  else if (ch = '|' || ch = '>') && !inFlow then blockScalar (ch = '>')
  else if ch = '\x27' || ch = '\x22' then possibleKey (return .scalar (← readQuoted (ch = '\x22')) false)
  else if startsPlain c inFlow then plainScalar
  else throw .malformed

/-- reads one token, or the end of the text -/
def fetch : Step Unit := do
  passBlank ((← get).cursor.left + 1)
  dropStaleKeys
  unwind (← get).cursor.column
  match (← get).cursor.peek 0 with
  | some ch => token ch
  | none =>
    leaveDocument
    modify fun s => { s with ended := true }

/-- whether the next token may still turn out to be a key -/
def isUndecided (s : Scan) : Bool :=
  s.keys.any (·.2.token == s.taken)

/-- reads until the next token is decided, at most `fuel` tokens -/
def fill : Nat → Step Unit
  | 0 => throw .malformed
  | fuel + 1 => do
    if (← get).ended then return ()
    if !(← get).waiting.isEmpty then
      dropStaleKeys
      if !isUndecided (← get) then return ()
    fetch
    fill fuel

/-- the next token, which stays; none at the end of the text -/
def next? : Step (Option Token) := do
  fill ((← get).cursor.left + 2)
  return (← get).waiting.head?

/-- takes the next token -/
def take : Step Unit :=
  modify fun s => { s with waiting := s.waiting.drop 1, taken := s.taken + 1 }

end Scan

end YangDesign.Yaml
