/-
Text in lines of limited width: tabs stand for blanks, and a line that is too wide is broken between words. A word that is
wider than the line is broken too, or loses its end.

Widths are counted in cells, of which wide characters take two.
-/
import YangDesign.Text.Blank
import YangDesign.Text.Lines
import YangDesign.Text.Width

namespace YangDesign.Console

open Text

/-- number of cells between two tab stops -/
def tabStop : Nat := 8

/-- the parts of a line between tabs with blanks up to the next tab stop after each, from a column on -/
def alignParts (column : Nat) : List (List Char) → List Char
  | [] => []
  | [part] => part
  | part :: parts =>
    let reached := column + cells (part ++ [' '])
    let blanks := (tabStop - reached % tabStop) % tabStop
    part ++ List.replicate (blanks + 1) ' ' ++ alignParts (reached + blanks) parts

/-- tabs replaced with blanks up to the next tab stop -/
def expandTabs (cs : List Char) : List Char :=
  alignParts 0 (splitAtEach '\t' cs)

/-- a word with the blanks after it, and the rest; blanks before the first word belong to it -/
def takeChunk (cs : List Char) : List Char × List Char :=
  let before := cs.takeWhile isBlank
  let cs := cs.dropWhile isBlank
  let word := cs.takeWhile (!isBlank ·)
  let cs := cs.dropWhile (!isBlank ·)
  (before ++ word ++ cs.takeWhile isBlank, cs.dropWhile isBlank)

/-- at most `fuel` words with the blanks around them -/
def chunks : Nat → List Char → List (List Char)
  | 0, _ => []
  | fuel + 1, cs =>
    match takeChunk cs with
    | ([], _) => []
    | (chunk, rest) => chunk :: chunks fuel rest

/-- clusters of a word put together to pieces of at most `limit` cells, where `piece` of `used` cells is begun -/
def chop (limit used : Nat) (piece : List Char) : List Cluster → List (List Char)
  | [] => if used = 0 then [] else [piece]
  | k :: ks =>
    if used + k.cells > limit then piece :: chop limit k.cells k.text ks
    else chop limit (used + k.cells) (piece ++ k.text) ks

/-- what precedes the last item, and the last item -/
def splitLast (line : List Char) : List (List Char) → List (List Char) × List Char
  | [] => ([], line)
  | l :: ls => let (before, last) := splitLast l ls; (line :: before, last)

/-- what becomes of a word that is wider than a line: it goes on in the next line, or three dots stand for its end -/
inductive Excess where
  | goesOn
  | dots
  deriving DecidableEq, Repr

/-- fills lines of at most `limit` cells with words, where `line` of `used` cells is begun -/
def fill (excess : Excess) (limit : Nat) (line : List Char) (used : Nat) : List (List Char) → List (List Char)
  | [] => [line]
  | word :: words =>
    let needed := cells (trimEnd word)
    if used + needed ≤ limit then fill excess limit (line ++ word) (used + cells word) words
    else
      let finished := if line.isEmpty then [] else [line]
      match if needed > limit && excess = .goesOn then chop limit 0 [] (clusters word) else [] with
      | piece :: pieces =>
        let (before, last) := splitLast piece pieces
        finished ++ before ++ fill excess limit last (cells last) words
      | [] => finished ++ fill excess limit word (cells word) words

/-- blanks at the end removed from a line of more than `limit` characters -/
def cutBlanks (limit : Nat) (line : List Char) : List Char :=
  if line.length > limit then
    let excess := line.length - limit
    let blanks := line.length - (trimEnd line).length
    line.take (line.length - min excess blanks)
  else line

/-- a line of at most `limit` cells; dots take the last of them -/
def cutLine (excess : Excess) (limit : Nat) (line : List Char) : List Char :=
  if excess = .dots && cells line > limit then crop (limit - 1) (clusters line) ++ ['…']
  else crop limit (clusters line)

/-- a line broken into lines of at most `limit` cells -/
def breakLine (excess : Excess) (limit : Nat) (line : List Char) : List (List Char) :=
  let line := expandTabs line
  (fill excess limit [] 0 (chunks line.length line)).map fun l => cutLine excess limit (cutBlanks limit l)

/-- a text in lines of at most `limit` cells -/
def wrapped (excess : Excess) (limit : Nat) (s : String) : List String :=
  ((linesOf s.toList).flatMap (breakLine excess limit)).map String.ofList

/-- a text with blanks after it, `limit` cells in all -/
def fitted (limit : Nat) (s : String) : String :=
  s ++ .ofList (List.replicate (limit - width s) ' ')

/-- cells that the widest line of a text takes, whatever ends its lines -/
def widest (s : String) : Nat :=
  ((anyLinesOf s.toList).map cells).foldl max 0

/-- a text with a filler on both sides, `limit` cells in all, the odd one on the right -/
def centred (limit : Nat) (filler : Char) (s : String) : String :=
  let excess := limit - width s
  .ofList (List.replicate (excess / 2) filler) ++ s ++ .ofList (List.replicate (excess - excess / 2) filler)

end YangDesign.Console
