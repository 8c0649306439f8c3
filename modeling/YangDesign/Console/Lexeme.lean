/-
Lexemes of literals: numbers, texts in quotes, words, dots and marks.

Blanks and comments separate lexemes. A line end does so inside brackets; outside it ends the literal.
-/
import YangDesign.Number.Literal
import YangDesign.Text.Lines

namespace YangDesign.Console

open Number Text

/-- a lexeme; of a number counts whether it is imaginary, of a text whether it is one of bytes -/
inductive Lexeme where
  | number (imaginary : Bool)
  | text (bytes : Bool)
  | word (name : String)
  | dots
  | mark (c : Char)
  deriving DecidableEq, Repr

/-- characters that a word goes on with -/
def isWordRest (c : Char) : Bool :=
  c.isAlphanum || c = '_' || 128 ≤ c.toNat

/-- whether digits stand in groups with single underscores between them -/
def isGrouped (isDigit : Char → Bool) (cs : List Char) : Bool :=
  (splitAtEach '_' cs).all fun part => !part.isEmpty && part.all isDigit

/-- the digits and underscores ahead, and the rest -/
def takeGroups (cs : List Char) : List Char × List Char :=
  cs.span fun c => c.isDigit || c = '_'

/-- what follows the digits of a base, an underscore before them allowed -/
def passBased? (base : Nat) (cs : List Char) : Option (List Char) :=
  let (digits, rest) := cs.span isWordRest
  let digits := if digits.head? == some '_' then digits.drop 1 else digits
  if isGrouped (fun c => (asciiDigit? base c).isSome) digits then some rest else none

/-- what follows an exponent, if there is one -/
def passExponent? : List Char → Option (List Char)
  | c :: cs =>
    if c = 'e' || c = 'E' then
      let (digits, rest) := takeGroups (takeSign cs).2
      if isGrouped Char.isDigit digits then some rest else none
    else some (c :: cs)
  | [] => some []

/-- a number with a point, an exponent or neither, where `whole` comes before the point; an integer has no zeros in front -/
def takeDecimal? (whole : List Char) (cs : List Char) : Option (Lexeme × List Char) := do
  let (fraction, afterPoint) := match cs with
    | '.' :: cs => takeGroups cs
    | _ => ([], cs)
  let rest ← passExponent? afterPoint
  let isWhole := rest.length == cs.length
  let (imaginary, rest) := match rest with
    | 'j' :: rest | 'J' :: rest => (true, rest)
    | _ => (false, rest)
  let isValid := (whole.isEmpty || isGrouped Char.isDigit whole) && (fraction.isEmpty || isGrouped Char.isDigit fraction) &&
    (!isWhole || imaginary || (whole.head? != some '0' && whole.length ≤ maxIntegerDigits) || whole.all (fun c => c = '0' || c = '_'))
  if isValid && !rest.head?.any isWordRest then return (.number imaginary, rest) else none

/-- a number that starts with a digit, or with a point and a digit -/
def takeNumber? : List Char → Option (Lexeme × List Char)
  | '0' :: c :: cs =>
    let base := match c with
      | 'x' | 'X' => some 16
      | 'o' | 'O' => some 8
      | 'b' | 'B' => some 2
      | _ => none
    match base with
    | some base => (passBased? base cs).map fun rest => (.number false, rest)
    | none => let (whole, rest) := takeGroups ('0' :: c :: cs); takeDecimal? whole rest
  | cs => let (whole, rest) := takeGroups cs; takeDecimal? whole rest

/-- the code point of hexadecimal digits, which have to be `n` -/
def hexCode? (n : Nat) (cs : List Char) : Option Nat :=
  if cs.length < n then none else (digitsIn? 16 (cs.take n)).map (ofDigits 16)

/-- whether an escape may stand before some characters; names of characters are not known -/
def allowsEscape (bytes : Bool) (c : Char) (cs : List Char) : Bool :=
  match c with
  | 'x' => (hexCode? 2 cs).isSome
  | 'u' => bytes || (hexCode? 4 cs).isSome
  | 'U' => bytes || (hexCode? 8 cs).any (· < 0x110000)
  | 'N' => bytes
  | c => !bytes || c.toNat < 128

/-- what follows a text with a quotation mark at its end, or with three of them -/
def passText? (raw bytes triple : Bool) (mark : Char) : List Char → Option (List Char)
  | [] => none
  | ['\\'] => none
  | '\\' :: c :: cs =>
    if raw && (!bytes || c.toNat < 128) || !raw && allowsEscape bytes c cs then passText? raw bytes triple mark cs else none
  | c :: cs =>
    if c = mark && !triple then some cs
    else if c = mark && cs.take 2 == [mark, mark] then some (cs.drop 2)
    else if c = '\n' && !triple || bytes && 128 ≤ c.toNat then none
    else passText? raw bytes triple mark cs

/-- a text from its quotation mark on; the letters before it tell of which kind it is -/
def takeText? (letters : List Char) (mark : Char) (cs : List Char) : Option (Lexeme × List Char) := do
  let letters := letters.map Char.toLower
  let raw := letters.contains 'r'
  let bytes := letters.contains 'b'
  let rest ←
    if cs.take 2 == [mark, mark] then passText? raw bytes true mark (cs.drop 2) else passText? raw bytes false mark cs
  if [[], ['r'], ['u'], ['b'], ['b', 'r'], ['r', 'b']].contains letters then return (.text bytes, rest) else none

/-- whether a character is a quotation mark -/
def isQuote (c : Char) : Bool :=
  c = '"' || c = '\''

/-- a word, or a text with letters before its quotation mark -/
def takeWord? (cs : List Char) : Option (Lexeme × List Char) :=
  match cs.span isWordRest with
  | (letters, c :: rest) => if isQuote c then takeText? letters c rest else some (.word (.ofList letters), c :: rest)
  | (letters, []) => some (.word (.ofList letters), [])

/-- a lexeme other than blanks and comments -/
def takeLexeme? : List Char → Option (Lexeme × List Char)
  | '.' :: '.' :: '.' :: cs => some (.dots, cs)
  | [] => none
  | c :: cs =>
    if c.isDigit || c = '.' && cs.head?.any Char.isDigit then takeNumber? (c :: cs)
    else if isQuote c then takeText? [] c cs
    else if isWordRest c then takeWord? (c :: cs)
    else if "()\x7b\x7d,:+-".toList.contains c then some (.mark c, cs)
    else none

/-- greatest depth of brackets -/
def maxDepth : Nat := 200

/-- the depth after a lexeme -/
def depthAfter? (depth : Nat) : Lexeme → Option Nat
  | .mark c =>
    if c = '(' || c = '\x7b' then (if depth < maxDepth then some (depth + 1) else none)
    else if c = ')' || c = '\x7d' then (if depth = 0 then none else some (depth - 1))
    else some depth
  | _ => some depth

/-- at most `fuel` steps of lexemes inside `depth` brackets, to the end of the characters -/
def lexemesFrom : Nat → Nat → List Char → Option (List Lexeme)
  | _, _, [] => some []
  | 0, _, _ => none
  | fuel + 1, depth, c :: cs =>
    if c = ' ' || c = '\t' || c = '\x0c' then lexemesFrom fuel depth cs
    else if c = '#' then lexemesFrom fuel depth (cs.dropWhile (· != '\n'))
    else if c = '\\' then (if cs.head? == some '\n' then lexemesFrom fuel depth (cs.drop 1) else none)
    else if c = '\n' then do
      let ls ← lexemesFrom fuel depth cs
      if depth = 0 && !ls.isEmpty then none else return ls
    else do
      let (l, rest) ← takeLexeme? (c :: cs)
      let depth ← depthAfter? depth l
      let ls ← lexemesFrom fuel depth rest
      return l :: ls

/-- the lexemes of some characters -/
def lexemes (cs : List Char) : Option (List Lexeme) :=
  let cs := unifyLines cs
  lexemesFrom (cs.length + 1) 0 cs

end YangDesign.Console
