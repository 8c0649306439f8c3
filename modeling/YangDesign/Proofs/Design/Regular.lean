/-
Parts of a design that are made of names.

A part is regular (`Part.Regular`) if its names can be written, as names of XML in the namespace of the design or in the
vocabulary, and if its browse names, display names and identifiers are printable ASCII. Descriptions, labels of enumerations and
default values are free; nothing is said of them. Each rule says when what a member or a definition consists of is regular.
-/
import YangDesign.Proofs.Design.Parts

namespace YangDesign.Design

/-- a name that can be written: its namespace is that of the design or the vocabulary, and it is a name of XML -/
structure SymbolicName.Home (uri : String) (n : SymbolicName) : Prop where
  bound : n.namespaceUri = uri ∨ n.namespaceUri = baseUri
  isName : Xml.isName n.name.toList = true

/-- a text of printable ASCII -/
def IsPrintable (s : String) : Prop :=
  ∀ c ∈ s.toList, 32 ≤ c.toNat ∧ c.toNat < 127

theorem isPrintable_of_all {s : String} (h : (s.toList.all fun c => decide (32 ≤ c.toNat ∧ c.toNat < 127)) = true) :
    IsPrintable s :=
  fun c hc => of_decide_eq_true (List.all_eq_true.1 h c hc)

theorem isPrintable_empty : IsPrintable "" := isPrintable_of_all rfl

theorem isPrintable_append {s t : String} (hs : IsPrintable s) (ht : IsPrintable t) : IsPrintable (s ++ t) := by
  intro c hc
  rw [String.toList_append] at hc
  exact (List.mem_append.1 hc).elim (hs c) (ht c)

/-- what holds of the parts of a definition that are made of names; descriptions, labels of enumerations and values are free -/
def Part.Regular (uri : String) : Part → Prop
  | .name _ n => n.Home uri
  | .text .browseName s | .text .displayName s | .text .identifier s => IsPrintable s
  | .text .description _ | .text .fieldName _ => True
  | .text .ofNamespace _ => False
  | .value d => d.dataType.Home uri

/-- regular parts -/
def Regular (uri : String) (ps : List Part) : Prop :=
  ∀ p ∈ ps, p.Regular uri

/-- names of a node that are regular -/
structure Labels.Regular (uri : String) (l : Labels) : Prop where
  symbolic : l.symbolic.Home uri
  browse : IsPrintable l.browse
  display : IsPrintable l.display

section Parts

variable {uri : String} {ps qs : List Part}

theorem regular_nil : Regular uri [] := fun p hp => by cases hp

theorem Regular.append (hp : Regular uri ps) (hq : Regular uri qs) : Regular uri (ps ++ qs) :=
  List.forall_mem_append.2 ⟨hp, hq⟩

theorem regular_singleton {p : Part} (h : p.Regular uri) : Regular uri [p] :=
  List.forall_mem_singleton.2 h

theorem regular_name {key : String} {n : SymbolicName} (h : n.Home uri) : Regular uri [.name key n] :=
  regular_singleton (p := .name key n) h

theorem regular_nameParts {key : String} {n : Option SymbolicName} (h : ∀ m, n = some m → m.Home uri) :
    Regular uri (nameParts key n) := by
  cases n with
  | none => exact regular_nil
  | some n => exact regular_name (h n rfl)

theorem regular_description (s : Option String) : Regular uri (textParts .description s) := by
  cases s with
  | none => exact regular_nil
  | some s => exact regular_singleton (p := .text .description s) trivial

theorem Labels.Regular.parts {l : Labels} (h : l.Regular uri) : Design.Regular uri l.parts :=
  have hbrowse : Design.Regular uri [.text .browseName l.browse] := regular_singleton (p := .text .browseName l.browse) h.browse
  have hdisplay : Design.Regular uri [.text .displayName l.display] :=
    regular_singleton (p := .text .displayName l.display) h.display
  hbrowse.append (hdisplay.append (regular_description _))

theorem regular_references {rs : List Reference} (h : ∀ r ∈ rs, r.type.Home uri ∧ r.target.Home uri) :
    Regular uri (rs.flatMap Reference.parts) := by
  intro p hp
  obtain ⟨r, hr, hp⟩ := List.mem_flatMap.1 hp
  exact (regular_name (h r hr).1).append (regular_name (h r hr).2) p hp

theorem regular_variableNode {l : Labels} {type : SymbolicName} {rank : ValueRank} {access : Option AccessLevel}
    {default : Option DefaultValue} (hl : l.Regular uri) (ht : type.Home uri)
    (hd : ∀ d, default = some d → d.dataType.Home uri) :
    Regular uri (Member.variableNode l (some type) rank access default).parts := by
  rw [Member.parts]
  refine (regular_name hl.symbolic).append ((regular_name ht).append (hl.parts.append ?_))
  cases default with
  | none => exact regular_nil
  | some d => exact regular_singleton (p := .value d) (hd d rfl)

theorem regular_objectNode {l : Labels} {type : SymbolicName} {children : List Member} (hl : l.Regular uri)
    (ht : type.Home uri) (hc : Regular uri (Member.partsOf children)) :
    Regular uri (Member.objectNode l (some type) [] children).parts := by
  rw [Member.parts]
  exact (regular_name hl.symbolic).append ((regular_name ht).append (hl.parts.append (hc.append regular_nil)))

theorem Member.partsOf_append (ms ns : List Member) : partsOf (ms ++ ns) = partsOf ms ++ partsOf ns := by
  induction ms with
  | nil => simp [partsOf]
  | cons m ms ih => simp [partsOf, ih]

theorem regular_definition {l : Labels} {c : Content} (hl : l.Regular uri) (hn : Regular uri c.nameParts)
    (hi : Regular uri c.innerParts) : Regular uri (Definition.parts ⟨l, c⟩) :=
  (regular_name hl.symbolic).append (hn.append (hl.parts.append hi))

end Parts

end YangDesign.Design
