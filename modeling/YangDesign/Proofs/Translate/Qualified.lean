/-
Qualified names of written designs.

The names of a design are in its own namespace or in the vocabulary (`translate_regular`), so each can be written, whatever
the settings. `translate_qualified`: in the element of a design the prefixes of the vocabulary keep their namespaces, the
prefix of the design is none of them, and every name that is written, looked up in the declarations of the root, is the name
it was written from.
-/
import YangDesign.Proofs.Design.NameTexts
import YangDesign.Proofs.Translate.ReadBack
import YangDesign.Proofs.Translate.RegularDesign

namespace YangDesign.Translate

open Design Input Instance Schema

variable {v : Value} {d : Document} {tree : Tree} {s : Settings} {data : List DataNode} {doc : ModelDocument}

/-- the names among regular parts are regular -/
theorem home_of_mem_namesOf {uri : String} {ps : List Part} (h : Regular uri ps) {n : String × SymbolicName}
    (hn : n ∈ namesOf ps) : n.2.Home uri := by
  obtain ⟨p, hp, hname⟩ := List.mem_filterMap.1 hn
  cases p with
  | name key m =>
    cases hname
    exact h _ hp
  | text slot t => cases hname
  | value x => cases hname

/-- the names of the design for a checked schema can be written -/
theorem nameText_of_translate (hcheck : Document.check v = .ok d) (hresolve : d.resolve = .ok tree)
    (h : translate s tree data = .ok doc) : ∀ n ∈ namesOf doc.parts, ∃ text, doc.nameText n.2 = .ok text := by
  have htarget := (translate_namespaces (Document.resolve_resolved hresolve) h).1
  intro n hn
  rw [namesOf_parts] at hn
  refine nameText_isOk ?_
  rw [htarget]
  exact (home_of_mem_namesOf (translate_regular (treeText_of_resolve hcheck hresolve) h) hn).bound

/-- the prefix of a design whose name is a name of XML is one -/
theorem isName_designPrefix (hnamespaces : doc.namespaces = designNamespaces s)
    (hname : Xml.isName s.designName.toList = true) : Xml.isName doc.designPrefix.toList = true := by
  have hwish : ∀ n ∈ designNamespaces s, ∀ label, n.xmlPrefix = some label → Xml.isName label.toList = true := by
    refine List.forall_mem_cons.2 ⟨fun label hl => ?_, List.forall_mem_singleton.2 fun label hl => ?_⟩
    · cases hl
      decide
    · cases hl
      exact hname
  unfold ModelDocument.designPrefix
  dsimp only
  split
  · decide
  · rename_i label labels hwishes
    split
    · decide
    · obtain ⟨n, hn, hlabel⟩ := List.mem_filterMap.1 (hwishes ▸ List.mem_cons_self :
        label ∈ doc.namespaces.filterMap fun n =>
          if n.uri = doc.target then n.xmlPrefix.filter (!·.isEmpty) else none)
      split at hlabel
      · exact hwish n (hnamespaces ▸ hn) label (Option.filter_eq_some_iff.1 hlabel).1
      · cases hlabel

/-- **Qualified names survive.** For a checked schema, a design name that is a name of XML, and any target and data: every name
of the design can be written, and the design is refused only over free texts and values or over a target that is no URI. If it
is written, the root declares the prefixes of the vocabulary for their namespaces and a prefix for the design, which is none of
them, and each `prefix:name` in it, at every depth, stands for the namespace and the local name it was written from. -/
theorem translate_qualified (hcheck : Document.check v = .ok d) (hresolve : d.resolve = .ok tree)
    (hname : Xml.isName s.designName.toList = true) (h : translate s tree data = .ok doc) :
    (∀ n ∈ namesOf doc.parts, ∃ text, doc.nameText n.2 = .ok text) ∧
    (∀ e, doc.element = .error e → e.isOfContent = true ∨ e = .invalidUri s.target) ∧
    ∀ root, doc.element = .ok root →
      declaredIn root = vocabularyPrefixes ++ [(doc.designPrefix, s.target)] ∧
      doc.designPrefix ∉ reservedPrefixes ∧
      (nameTexts root).map (fun t => (t.1, resolveName (declaredIn root) t.2)) =
        (namesOf doc.parts).map fun n => (n.1, some n.2) := by
  have hnames := nameText_of_translate hcheck hresolve h
  obtain ⟨htarget, hnamespaces⟩ := translate_namespaces (Document.resolve_resolved hresolve) h
  refine ⟨hnames, fun e he => ?_, fun root hroot => ⟨?_, ?_, resolve_element hroot⟩⟩
  · rcases fault_of_element he with ⟨x, hx, hfault⟩ | ⟨p, hp, hfault⟩
    · rw [declarations_eq, List.mem_append, List.mem_singleton] at hx
      rcases hx with hx | rfl
      · cases (checkDeclaration_vocabulary x hx).symm.trans hfault
      · rcases checkDeclaration_fault hfault with rfl | ⟨rfl, -⟩ | ⟨-, hprefix⟩
        · exact Or.inl rfl
        · exact Or.inr (congrArg _ htarget)
        · rw [isName_designPrefix hnamespaces hname] at hprefix
          cases hprefix
    · rcases Part.fault hfault with hcontent | ⟨key, n, rfl, hunbound⟩
      · exact Or.inl hcontent
      · obtain ⟨text, htext⟩ := hnames (key, n) (List.mem_filterMap.2 ⟨_, hp, rfl⟩)
        cases htext.symm.trans hunbound
  · rw [declaredIn_element hroot, declarations_eq, htarget]
  · exact (not_mem_of_isReserved (isReserved_designPrefix doc)).1

/-- a container with a leaf -/
def tankSchema : Value :=
  let statement := fun (kind name : String) (members : List (Value × Value)) =>
    Value.map ((.text "kind", .text kind) :: (.text "name", .text name) :: members)
  .map [(.text "modules", .list [.map [(.text "name", .text "m"), (.text "namespace", .text "urn:m"),
    (.text "prefix", .text "m"), (.text "statements", .list [statement "container" "c" [(.text "children", .list [
      statement "leaf" "x" [(.text "type", .text "string")]])]])]])]

/-- the tree of the container with a leaf -/
def tankTree : Tree :=
  ⟨[⟨"m", "urn:m", "m", [.mk ⟨⟨"urn:m", "c"⟩, ["c"], none⟩ .container [
    .mk ⟨⟨"urn:m", "x"⟩, ["c", "x"], none⟩
      (.leaf (some (.mk ⟨"urn:m", "string"⟩ ["c", "x", "string"] (.builtIn .string) none [] none))) []]], none⟩]⟩

/-- data for the container, with a text in the leaf -/
def tankData (text : String) : List DataNode :=
  [.container ⟨"urn:m", "c"⟩ [.leaf ⟨"urn:m", "x"⟩ (.text text)]]

theorem resolve_tankSchema : ∃ d, Document.check tankSchema = .ok d ∧ d.resolve = .ok tankTree :=
  ⟨_, rfl, rfl⟩

/-- a design that asks for a reserved prefix, in the namespace of the vocabulary: the names in it are found again -/
theorem tankSchema_qualified : ∃ d tree doc root, Document.check tankSchema = .ok d ∧ d.resolve = .ok tree ∧
    Xml.isName "uax".toList = true ∧ translate ⟨"uax", some baseUri, 0, true⟩ tree (tankData "1") = .ok doc ∧
    doc.element = .ok root ∧ doc.designPrefix = "OpcUa" ∧
    (nameTexts root).map (fun t => (t.1, resolveName (declaredIn root) t.2)) =
      (namesOf doc.parts).map fun n => (n.1, some n.2) := by
  obtain ⟨d, hcheck, hresolve⟩ := resolve_tankSchema
  obtain ⟨doc, hdoc, hwritten⟩ : ∃ doc, translate ⟨"uax", some baseUri, 0, true⟩ tankTree (tankData "1") = .ok doc ∧
      (doc.element.toOption.isSome && doc.designPrefix == "OpcUa") = true := ok_of_any (by decide +kernel)
  rw [Bool.and_eq_true, beq_iff_eq] at hwritten
  obtain ⟨root, hroot⟩ := ok_of_isSome hwritten.1
  have hname : Xml.isName "uax".toList = true := by decide
  exact ⟨d, tankTree, doc, root, hcheck, hresolve, hname, hdoc, hroot, hwritten.2,
    ((translate_qualified hcheck hresolve hname hdoc).2.2 root hroot).2.2⟩

end YangDesign.Translate
