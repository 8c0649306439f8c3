/-
Faults of a schema file on the console: where each is found, what is wrong, its code, and how to mend it.
-/
import YangDesign.Console.Marked
import YangDesign.Input.Fault

namespace YangDesign.Console

open Input

/-- the rows of a fault -/
def faultRows (f : Fault) : Shown :=
  let lines := [
    "[red]✗[/red] " ++ escape (locationText f.location), "  " ++ escape f.cause.explanation,
    "  [dim](" ++ f.cause.code ++ ")[/dim]"]
  let hint := f.cause.hint?.toList.map fun h => "  [green]💡 " ++ h ++ "[/green]"
  stacked ((lines ++ hint ++ [""]).map printed)

/-- faults under a heading -/
def showFaults (fs : List Fault) : Shown :=
  stacked ([printed "[red bold]Schema Validation Failed[/red bold]", printed ""] ++ fs.map faultRows)

end YangDesign.Console
