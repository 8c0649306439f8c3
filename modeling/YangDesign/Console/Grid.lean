/-
A grid: rows of cells in columns with rules between them, under a title.

A column is as wide as its widest cell, unless its width is fixed. A grid that is wider than the console takes the excess
from its widest columns. Cells that do not fit are broken into several lines, between words only.
-/
import YangDesign.Console.Panel

namespace YangDesign.Console

open Text

/-- a column: its heading and the cells it takes, if that is fixed -/
structure Column where
  heading : String
  fixed : Option Nat := none
  deriving DecidableEq, Repr

/-- a grid -/
structure Grid where
  title : String
  columns : List Column
  hasHeader : Bool
  rows : List (List String)
  deriving DecidableEq, Repr

namespace Grid

/-- the cells of a column -/
def cellsAt (g : Grid) (i : Nat) : List String :=
  g.rows.map fun row => (row[i]?).getD ""

/-- cells that a column takes, one blank on each side included; all columns together may take `limit` -/
def columnWidth (g : Grid) (limit : Nat) (c : Column) (i : Nat) : Nat :=
  match c.fixed with
  | some n => n + 2
  | none =>
    let heading := if g.hasHeader then [c.heading] else []
    min limit (((heading ++ g.cellsAt i).map widest).foldl max 0 + 2)

/-- the nearest natural number to a ratio, a half to the even one -/
def nearest (num den : Nat) : Nat :=
  let q := num / den
  let twice := 2 * (num % den)
  if twice > den || (twice == den && q % 2 == 1) then q + 1 else q

/-- takes `total` from the widths that are marked, at most `most` from each, in equal parts -/
def takeEvenly (most total : Nat) : List (Nat × Bool) → List Nat
  | [] => []
  | (w, false) :: ws => w :: takeEvenly most total ws
  | (w, true) :: ws =>
    let share := min most (nearest total (((ws.filter (·.2)).length) + 1))
    (w - share) :: takeEvenly most (total - share) ws

/-- takes the excess over `limit` from the widest columns that may shrink, at most `fuel` times -/
def shrink (limit : Nat) : Nat → List (Nat × Bool) → List (Nat × Bool)
  | 0, ws => ws
  | fuel + 1, ws =>
    let excess := (ws.map (·.1)).sum - limit
    let flexible := (ws.filter (·.2)).map (·.1)
    let most := flexible.foldl max 0
    let second := (flexible.filter (· != most)).foldl max 0
    if excess = 0 || most = second then ws
    else
      let widths := takeEvenly (min excess (most - second)) excess (ws.map fun (w, free) => (w, free && w == most))
      shrink limit fuel (widths.zip (ws.map (·.2)))

/-- the widths of the columns -/
def widths (g : Grid) : List Nat :=
  let free := consoleWidth - (g.columns.length + 1)
  let ws := g.columns.zipIdx.map fun (c, i) => (g.columnWidth free c i, c.fixed.isNone)
  (shrink free consoleWidth ws).map (·.1)

/-- a rule with marks at both ends and between columns -/
def ruleRow (left line middle right : Char) (ws : List Nat) : String :=
  left.toString ++ middle.toString.intercalate (ws.map fun w => rule w line) ++ right.toString

/-- the lines that a row of cells takes, every cell filled to its width -/
def textRows (edge : Char) (ws : List Nat) (row : List String) : Rows :=
  let columns := (ws.zip row).map fun (w, s) => (w - 2, wrapped .dots (w - 2) s)
  let height := (columns.map fun (_, lines) => lines.length).foldl max 1
  let bar := edge.toString
  (List.range height).map fun k =>
    bar ++ bar.intercalate (columns.map fun (w, lines) => " " ++ fitted w ((lines[k]?).getD "") ++ " ") ++ bar

/-- the rows of a grid -/
def render (g : Grid) : Rows :=
  let ws := g.widths
  let total := ws.foldl (· + ·) 0 + ws.length + 1
  let head :=
    if g.hasHeader then
      ruleRow '┏' '━' '┳' '┓' ws :: textRows '┃' ws (g.columns.map (·.heading)) ++ [ruleRow '┡' '━' '╇' '┩' ws]
    else [ruleRow '┌' '─' '┬' '┐' ws]
  (wrapped .goesOn total g.title).map (centred total ' ') ++ head ++ g.rows.flatMap (textRows '│' ws) ++
    [ruleRow '└' '─' '┴' '┘' ws]

end Grid

end YangDesign.Console
