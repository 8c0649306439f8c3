/-
Output from marked-up text: lines, panels and grids of it. Markup that cannot be shown makes the whole output fail.
-/
import YangDesign.Console.Grid
import YangDesign.Console.Markup

namespace YangDesign.Console

/-- rows, unless a text of them has markup that cannot be shown -/
abbrev Shown := Except MarkupFault Rows

/-- a marked-up text in lines as wide as the console -/
def printed (s : String) : Shown :=
  (plain s).map (wrapped .goesOn consoleWidth)

/-- several outputs, one below the other -/
def stacked (outputs : List Shown) : Shown := do
  return (← outputs.mapM id).flatten

/-- a panel around marked-up text -/
def printedPanel (title text : String) : Shown :=
  (plain text).map (panel title)

/-- a narrow panel around marked-up text -/
def printedFittedPanel (title text : String) : Shown :=
  (plain text).map (fittedPanel title)

/-- a grid with cells of marked-up text -/
def printedGrid (title : String) (columns : List Column) (hasHeader : Bool) (rows : List (List String)) : Shown := do
  let rows ← rows.mapM fun row => row.mapM plain
  return (Grid.mk title columns hasHeader rows).render

end YangDesign.Console
