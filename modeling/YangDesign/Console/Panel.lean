/-
A panel: text in a frame of rounded corners, with a title in the middle of its upper edge.

A panel is as wide as the console, or only as wide as its text and title need.
-/
import YangDesign.Console.Paragraph

namespace YangDesign.Console

open Text

/-- cells of a line of the console -/
def consoleWidth : Nat := 240

/-- rows of output, from top to bottom -/
abbrev Rows := List String

/-- a row of a number of equal characters -/
def rule (n : Nat) (c : Char) : String :=
  .ofList (List.replicate n c)

/-- a panel of a width -/
def panelOf (outer : Nat) (title text : String) : Rows :=
  let top := "╭─" ++ centred (outer - 4) '─' (" " ++ title ++ " ") ++ "─╮"
  let row (line : String) := "│ " ++ fitted (outer - 4) line ++ " │"
  top :: (wrapped .goesOn (outer - 4) text).map row ++ ["╰" ++ rule (outer - 2) '─' ++ "╯"]

/-- a panel as wide as the console -/
def panel (title text : String) : Rows :=
  panelOf consoleWidth title text

/-- a panel as wide as its text and title -/
def fittedPanel (title text : String) : Rows :=
  let inner := max (min (widest text + 2) (consoleWidth - 2)) (width title + 4)
  panelOf (min inner (consoleWidth - 2) + 2) title text

end YangDesign.Console
