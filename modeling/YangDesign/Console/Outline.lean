/-
An outline: labels in a tree, drawn with lines from each label to those below it.

A label of several lines keeps the lines of its ancestors at its left.
-/
import YangDesign.Console.Panel

namespace YangDesign.Console

/-- a label with outlines below it -/
inductive Outline where
  | node (label : String) (below : List Outline)
  deriving Repr

namespace Outline

/-- the lines of a label, where the first line and the others have something before them -/
def labelRows (first rest label : String) : Rows :=
  match wrapped .goesOn (consoleWidth - Text.width first) label with
  | [] => []
  | line :: lines => (first ++ line) :: lines.map (rest ++ ·)

mutual

/-- an outline whose first line has `first` before it and whose other lines have `rest` -/
def rowsUnder (first rest : String) : Outline → Rows
  | .node label below => labelRows first rest label ++ branchRows rest below

/-- outlines below a label, the last with a corner -/
def branchRows (rest : String) : List Outline → Rows
  | [] => []
  | [o] => rowsUnder (rest ++ "└── ") (rest ++ "    ") o
  | o :: os => rowsUnder (rest ++ "├── ") (rest ++ "│   ") o ++ branchRows rest os

end

/-- the rows of an outline -/
def render (o : Outline) : Rows :=
  rowsUnder "" "" o

end Outline

end YangDesign.Console
