/-
A written design is read back.

What is read of a written design is what the design is in short (`readSummary_write`): its target, its namespaces, the kinds of
its definitions and their names in order. What stands in texts and attributes, and the elements below definitions, have no
part in it.
-/
import YangDesign.Design.Reader
import YangDesign.Proofs.Design.Written

namespace YangDesign.Design

open Xml

variable {doc : ModelDocument} {bs : Bindings}

/-! ## Names -/

theorem splitQualified_joined {label : String} (hlabel : isName label.toList = true) (name : String) :
    Text.splitQualified (joined label name) = (some label, name) := by
  obtain ⟨htake, hdrop⟩ := span_of_boundary (p := (· != ':')) (l := label.toList) (r := ':' :: name.toList)
    (fun c hc => by simpa using ne_colon_of_isName hlabel c hc) rfl
  rw [Text.splitQualified, toList_joined, hdrop, htake]
  dsimp only
  rw [String.ofList_toList, String.ofList_toList]

/-- a name is written after a prefix that the root declares -/
theorem nameText_ok {n : SymbolicName} {text : String} (h : doc.nameText n = .ok text) :
    ∃ d ∈ doc.declarations, text = joined d.1 n.name := by
  unfold ModelDocument.nameText ModelDocument.prefixOf? at h
  by_cases htarget : n.namespaceUri = doc.target
  · rw [if_pos htarget] at h
    cases h
    exact ⟨(doc.designPrefix, doc.target), by simp [ModelDocument.declarations], rfl⟩
  · rw [if_neg htarget] at h
    by_cases hbase : n.namespaceUri = baseUri
    · rw [if_pos hbase] at h
      cases h
      exact ⟨("ua", baseUri), by simp [ModelDocument.declarations], rfl⟩
    · rw [if_neg hbase] at h
      cases h

/-! ## Elements as they are read -/

/-- an element of designs as it is read -/
theorem BindsTags.qualified_opc (hbs : BindsTags bs) (pretty : Bool) (depth : Nat) (name : String)
    (as : List (String × String)) (text : Option String) (children : List Element) :
    Element.qualified bs pretty depth ⟨opcTag name, as, text, children⟩ =
      ⟨modelDesignUri, name, as.map fun a => (("", a.1), a.2),
        text.getD "" ++ (if children.isEmpty then "" else indentation (pretty && text.isNone) (depth + 1)),
        children.map (Element.qualified bs (pretty && text.isNone) (depth + 1))⟩ := by
  rw [Element.qualified, opcTag_eq, WrittenName.split_joined (by decide), Element.qualifiedAll_eq_map]
  dsimp only
  rw [hbs.opc]
  rfl

/-- a definition is read with its kind and its name -/
theorem BindsTags.read_definition (hbs : BindsTags bs) (hlabels : ∀ d ∈ doc.declarations, isName d.1.toList = true)
    {d : Definition} {e : Element} (h : definitionElement doc d = .ok e) (pretty : Bool) (depth : Nat) :
    (e.qualified bs pretty depth).localName = d.kind.element ∧ symbolicLocal (e.qualified bs pretty depth) = d.name.name := by
  obtain ⟨text, attributes, children, htext, rfl, -⟩ := hbs.definitionElement_ok h
  obtain ⟨p, hp, rfl⟩ := nameText_ok htext
  rw [hbs.qualified_opc]
  refine ⟨rfl, ?_⟩
  change (Text.splitQualified (joined p.1 d.name.name)).2 = d.name.name
  rw [splitQualified_joined (hlabels p hp)]

/-- a namespace is read with its name and its URI -/
theorem BindsTags.read_namespace (hbs : BindsTags bs) {n : Namespace} {e : Element} (h : namespaceElement n = .ok e)
    (pretty : Bool) (depth : Nat) : ((e.qualified bs pretty depth).attribute? "Name").getD "" = n.name ∧
      (e.qualified bs pretty depth).text = n.uri := by
  obtain ⟨attributes, rfl, -⟩ := hbs.namespaceElement_ok h
  rw [hbs.qualified_opc]
  exact ⟨rfl, String.append_empty⟩

/-! ## Summaries -/

theorem kindOf?_element (k : DefinitionKind) : kindOf? k.element = some k := by
  cases k <;> decide

theorem element_ne_namespaces (k : DefinitionKind) : k.element ≠ "Namespaces" := by
  cases k <;> decide

theorem checkLocalName_ok {name : String} (h : isName name.toList = true) : checkLocalName name = .ok () := by
  have hcolon : name.contains ':' = false := by
    rw [String.contains_char_eq, decide_eq_false_iff_not]
    exact fun hmem => ne_colon_of_isName h ':' hmem rfl
  rw [checkLocalName, if_neg (by rw [hcolon]; decide)]

/-- what an element counts for as a definition -/
def countedAs? (q : Qualified) : Option (DefinitionKind × String) :=
  (kindOf? q.localName).map (·, symbolicLocal q)

/-- a root with a list of namespaces before its definitions -/
theorem summarize_eq {target text : String} {q : Qualified} {qs : List Qualified} {namespaces : List (String × String)}
    {definitions : List (DefinitionKind × String)} (hq : q.localName = "Namespaces")
    (hlisted : q.children.map (fun n => ((n.attribute? "Name").getD "", Text.trim n.text)) = namespaces)
    (hnames : ∀ q ∈ qs, checkLocalName q.localName = .ok ()) (hnone : qs.flatMap listedNamespaces = [])
    (hcounted : qs.filterMap countedAs? = definitions) :
    summarize ⟨modelDesignUri, "ModelDesign", [(("", "TargetNamespace"), target)], text, q :: qs⟩ =
      .ok ⟨target, .ofList namespaces, definitions.map (·.1), definitions.map (·.2)⟩ := by
  have hall : ∀ c ∈ q :: qs, checkLocalName c.localName = .ok () :=
    List.forall_mem_cons.2 ⟨by rw [hq]; exact checkLocalName_ok (by decide), hnames⟩
  have hlist : (q :: qs).flatMap listedNamespaces = namespaces := by
    rw [List.flatMap_cons, hnone, List.append_nil, listedNamespaces, if_pos hq, hlisted]
  have hcount : (q :: qs).filterMap countedAs? = definitions := by
    rw [List.filterMap_cons, countedAs?, hq, hcounted]
    rfl
  unfold summarize
  rw [if_pos (by rfl)]
  dsimp only
  rw [forM_eq_ok_iff.2 hall, hlist]
  rw [← hcount]
  rfl

/-- the definitions below a root, as they are read -/
theorem BindsTags.read_definitions (hbs : BindsTags bs) (hlabels : ∀ d ∈ doc.declarations, isName d.1.toList = true)
    (pretty : Bool) (depth : Nat) {ds : List Definition} {es : List Element}
    (h : List.Forall₂ (fun d e => definitionElement doc d = .ok e) ds es) :
    (∀ q ∈ es.map (Element.qualified bs pretty depth), checkLocalName q.localName = .ok ()) ∧
    (es.map (Element.qualified bs pretty depth)).flatMap listedNamespaces = [] ∧
    (es.map (Element.qualified bs pretty depth)).filterMap countedAs? = ds.map fun d => (d.kind, d.name.name) := by
  induction h with
  | nil => exact ⟨by simp, rfl, rfl⟩
  | cons hd _ ih =>
    obtain ⟨hchecked, hnamespaces, hdefinitions⟩ := ih
    obtain ⟨hname, hlocal⟩ := hbs.read_definition hlabels hd pretty depth
    refine ⟨List.forall_mem_cons.2 ⟨?_, hchecked⟩, ?_, ?_⟩
    · rw [hname]
      rename_i d _ _ _ _
      exact checkLocalName_ok (by cases d.kind <;> decide)
    · rw [List.map_cons, List.flatMap_cons, hnamespaces, listedNamespaces, hname, if_neg (element_ne_namespaces _)]
      rfl
    · rw [List.map_cons, List.map_cons, List.filterMap_cons, countedAs?, hname, kindOf?_element, hdefinitions, hlocal]
      rfl

/-- the namespaces that a root lists, as they are read -/
theorem BindsTags.read_namespaces (hbs : BindsTags bs) (pretty : Bool) (depth : Nat) {ns : List Namespace} {es : List Element}
    (h : List.Forall₂ (fun n e => namespaceElement n = .ok e) ns es) (htrim : ∀ n ∈ ns, Text.trim n.uri = n.uri) :
    (es.map (Element.qualified bs pretty depth)).map (fun q => ((q.attribute? "Name").getD "", Text.trim q.text)) =
      ns.map fun n => (n.name, n.uri) := by
  induction h with
  | nil => rfl
  | cons hn _ ih =>
    obtain ⟨htrimmed, hmore⟩ := List.forall_mem_cons.1 htrim
    obtain ⟨hname, huri⟩ := hbs.read_namespace hn pretty depth
    rw [List.map_cons, List.map_cons, List.map_cons, ih hmore, hname, huri, htrimmed]

/-- the root of a written design is parsed as it was written -/
theorem ModelDocument.parse?_element {root : Element} (hroot : doc.element = .ok root)
    (htarget : doc.target ≠ "" ∧ doc.target ≠ xmlUri ∧ doc.target ≠ xmlnsUri) (hheight : root.height ≤ depthLimit)
    (pretty : Bool) : ∃ namespaces definitions,
      List.Forall₂ (fun n e => namespaceElement n = .ok e) doc.namespaces namespaces ∧
      List.Forall₂ (fun d e => definitionElement doc d = .ok e) doc.definitions.toList definitions ∧
      parse? (render pretty root) = some (Element.qualified (doc.declarations ++ .initial) pretty 0
        ⟨opcTag "ModelDesign", [("TargetNamespace", doc.target)], none,
          ⟨opcTag "Namespaces", [], none, namespaces⟩ :: definitions⟩) := by
  have hbs := bindsTags_declarations doc
  have hchecked := doc.checked_of_element hroot
  have hdeclares := doc.declares_of_element hroot htarget
  obtain ⟨namespaces, definitions, hnamespaces, hdefinitions, rfl⟩ := doc.element_ok hroot
  have hkey : PlainAttributes [("TargetNamespace", doc.target)] :=
    (keyed_singleton (hchecked (doc.designPrefix, doc.target) (by simp [ModelDocument.declarations])).2.1).plain
      (by decide) (by decide)
  have htag : FitTag doc.declarations .initial "opc" "ModelDesign" modelDesignUri [("TargetNamespace", doc.target)] :=
    ⟨by decide, by decide, hbs.opc, hdeclares, hkey⟩
  have hlist : Element.Fit (doc.declarations ++ .initial) ⟨opcTag "Namespaces", [], none, namespaces⟩ := by
    refine hbs.fit_opc (by decide) plainAttributes_nil rfl fun e he => ?_
    obtain ⟨n, -, hn⟩ := forall₂_mem_left hnamespaces.flip he
    obtain ⟨-, -, hfit⟩ := hbs.namespaceElement_ok hn
    exact hfit
  have hfit : ∀ e ∈ definitions, e.Fit (doc.declarations ++ .initial) := by
    intro e he
    obtain ⟨d, -, hd⟩ := forall₂_mem_left hdefinitions.flip he
    obtain ⟨-, -, -, -, -, hfit⟩ := hbs.definitionElement_ok hd
    exact hfit
  exact ⟨namespaces, definitions, hnamespaces, hdefinitions,
    parse?_render htag rfl (List.forall_mem_cons.2 ⟨hlist, hfit⟩) hheight pretty⟩

/-- **A written design is read back.** What is read is what the design is in short, on indented lines or on one, if its target
can be declared, the URIs of its namespaces neither begin nor end with blanks, and its elements do not nest too deep to be
read. -/
theorem readSummary_write (htarget : doc.target ≠ "" ∧ doc.target ≠ xmlUri ∧ doc.target ≠ xmlnsUri)
    (htrim : ∀ n ∈ doc.namespaces, Text.trim n.uri = n.uri) (hdepth : ∀ e, doc.element = .ok e → e.height ≤ depthLimit)
    {pretty : Bool} {text : String} (h : doc.write pretty = .ok text) : readSummary text = .ok doc.summary := by
  obtain ⟨root, hroot, rfl⟩ := map_eq_ok_iff.1 h
  obtain ⟨namespaces, definitions, hnamespaces, hdefinitions, hparse⟩ :=
    doc.parse?_element hroot htarget (hdepth root hroot) pretty
  have hbs := bindsTags_declarations doc
  obtain ⟨hnames, hnone, hkinds⟩ :=
    hbs.read_definitions (fun d hd => (doc.checked_of_element hroot d hd).1) pretty 1 hdefinitions
  have hlisted := hbs.read_namespaces pretty 2 hnamespaces htrim
  have hlist := hbs.qualified_opc pretty 1 "Namespaces" [] none namespaces
  rw [Option.isNone_none, Bool.and_true] at hlist
  rw [hbs.qualified_opc, Option.isNone_none, Bool.and_true] at hparse
  have hchildren : (Element.qualified (doc.declarations ++ .initial) pretty 1
      ⟨opcTag "Namespaces", [], none, namespaces⟩).children =
      namespaces.map (Element.qualified (doc.declarations ++ .initial) pretty 2) := congrArg Qualified.children hlist
  rw [← hchildren] at hlisted
  rw [readSummary, hparse]
  refine (summarize_eq (congrArg Qualified.localName hlist) hlisted hnames hnone hkinds).trans ?_
  rw [ModelDocument.summary, List.map_map, List.map_map]
  rfl

end YangDesign.Design
