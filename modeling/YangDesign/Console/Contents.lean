/-
What a schema or a design holds, as grids.
-/
import YangDesign.Console.Marked
import YangDesign.Design.Summary
import YangDesign.Schema.Document

namespace YangDesign.Console

/-- the statement counts of a module on one line -/
def countsText (m : Schema.ModuleDecl) : String :=
  let counts := m.sortedCounts.map fun (keyword, n) => keyword ++ ": " ++ toString n
  if counts.isEmpty then "-" else ", ".intercalate counts

/-- the modules of a schema -/
def schemaContents (d : Schema.Document) : Shown :=
  printedGrid "Schema Summary" [⟨"Module", none⟩, ⟨"Prefix", none⟩, ⟨"Namespace", none⟩, ⟨"Statements", none⟩] true
    (d.modules.map fun m => [m.name, m.modulePrefix, m.namespaceUri, countsText m])

/-- the namespaces and the number of definitions of a design -/
def designContents (s : Design.Summary) : Shown :=
  printedGrid "ModelDesign Contents" [⟨"Property", none⟩, ⟨"Value", none⟩] false
    ([["Target Namespace", s.target]] ++ s.namespaces.toList.map (fun (name, uri) => ["Namespace: " ++ name, uri]) ++
      [["", ""]] ++ s.counts.map (fun (kind, n) => [kind, toString n]) ++ [["Total", toString s.total]])

end YangDesign.Console
