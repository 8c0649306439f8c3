/-
The names that a written design holds, and what they stand for.

A name is written as the value of an attribute or as the text of an element (`nameTexts`), in the form `prefix:name`. The names
in the element of a design are those among its parts, one for one and in order (`nameTexts_element`). The prefixes that
the root declares are the fixed ones and that of the design, which is none of them (`declared_element`), so a name that is
looked up in the root is the name it was written from (`resolveName_nameText`).
-/
import YangDesign.Proofs.Design.Parts
import YangDesign.Proofs.Design.Written

namespace YangDesign.Design

open Xml

/-! ## Names in elements -/

/-- attributes that hold a name -/
def nameKeys : List String :=
  ["SymbolicName", "BaseType", "DataType", "TypeDefinition"]

/-- elements whose text is a name -/
def nameTags : List String :=
  ["ReferenceType", "TargetId"]

/-- the names in the attributes of an element and in its text, each with its key -/
def ownNameTexts (tag : String) (attributes : List (String × String)) (text : Option String) : List (String × String) :=
  attributes.filter (nameKeys.contains ·.1) ++
    nameTags.filterMap fun key => if tag = opcTag key then text.map (key, ·) else none

mutual

/-- the names in an element, at every depth, as they are written -/
def nameTexts : Element → List (String × String)
  | ⟨tag, attributes, text, children⟩ => ownNameTexts tag attributes text ++ nameTextsOf children

/-- the names in some elements -/
def nameTextsOf : List Element → List (String × String)
  | [] => []
  | e :: es => nameTexts e ++ nameTextsOf es

end

/-- the name that a part is -/
def Part.name? : Part → Option (String × SymbolicName)
  | .name key n => some (key, n)
  | _ => none

/-- the names among some parts -/
def namesOf (ps : List Part) : List (String × SymbolicName) :=
  ps.filterMap Part.name?

/-- a text that a name is written as, under the same key -/
def WrittenAs (doc : ModelDocument) (text : String × String) (name : String × SymbolicName) : Prop :=
  text.1 = name.1 ∧ doc.nameText name.2 = .ok text.2

/-- the names of some parts, one for one -/
abbrev Spells (doc : ModelDocument) (texts : List (String × String)) (ps : List Part) : Prop :=
  List.Forall₂ (WrittenAs doc) texts (namesOf ps)

variable {doc : ModelDocument} {e : Element} {es : List Element} {as : List (String × String)}

theorem namesOf_append (ps qs : List Part) : namesOf (ps ++ qs) = namesOf ps ++ namesOf qs :=
  List.filterMap_append

theorem nameTextsOf_append (es fs : List Element) : nameTextsOf (es ++ fs) = nameTextsOf es ++ nameTextsOf fs := by
  induction es with
  | nil => rfl
  | cons e es ih => rw [List.cons_append, nameTextsOf, nameTextsOf, ih, List.append_assoc]

theorem nameTextsOf_eq_nil (h : ∀ e ∈ es, nameTexts e = []) : nameTextsOf es = [] := by
  induction es with
  | nil => rfl
  | cons e es ih =>
    obtain ⟨he, hes⟩ := List.forall_mem_cons.1 h
    rw [nameTextsOf, he, ih hes]
    rfl

theorem nameTextsOf_singleton (e : Element) : nameTextsOf [e] = nameTexts e := by
  rw [nameTextsOf, nameTextsOf, List.append_nil]

/-- an element without a text has the names in its attributes and those below it -/
theorem nameTexts_bare (tag : String) (as : List (String × String)) (es : List Element) :
    nameTexts ⟨tag, as, none, es⟩ = as.filter (nameKeys.contains ·.1) ++ nameTextsOf es := by
  have hnone : (nameTags.filterMap fun key => if tag = opcTag key then (none : Option String).map (key, ·) else none) = [] := by
    simp
  rw [nameTexts, ownNameTexts, hnone, List.append_nil]

theorem nameTexts_group (name : String) (es : List Element) : nameTextsOf (group name es) = nameTextsOf es := by
  unfold group
  split
  · rename_i hempty
    rw [List.isEmpty_iff.1 hempty]
  · rw [nameTextsOf_singleton, nameTexts_bare]
    rfl

theorem Spells.append {xs ys : List (String × String)} {ps qs : List Part} (h : Spells doc xs ps) (k : Spells doc ys qs) :
    Spells doc (xs ++ ys) (ps ++ qs) := by
  rw [Spells, namesOf_append]
  exact List.rel_append h k

theorem spells_nil {ps : List Part} (h : namesOf ps = []) : Spells doc [] ps := by
  rw [Spells, h]
  exact .nil

/-- elements of which each holds the names of something -/
theorem spells_flatMap {α : Type} {parts : α → List Part} {as : List α}
    (h : List.Forall₂ (fun a e => Spells doc (nameTexts e) (parts a)) as es) :
    Spells doc (nameTextsOf es) (as.flatMap parts) := by
  induction h with
  | nil => exact spells_nil rfl
  | cons ha _ ih => exact ha.append ih

theorem spells_of_mapM {α : Type} {f : α → Written Element} {parts : α → List Part}
    (hf : ∀ a e, f a = .ok e → Spells doc (nameTexts e) (parts a)) {as : List α} (h : as.mapM f = .ok es) :
    Spells doc (nameTextsOf es) (as.flatMap parts) :=
  spells_flatMap ((ok_of_mapM h).imp hf)

/-! ## Parts without names -/

theorem namesOf_textParts (slot : Slot) (s : Option String) : namesOf (textParts slot s) = [] := by
  cases s <;> rfl

theorem namesOf_labels (l : Labels) : namesOf l.parts = [] := by
  rw [Labels.parts, namesOf_append, namesOf_append, namesOf_textParts]
  rfl

theorem namesOf_field (f : Field) : namesOf f.parts = [] := by
  rw [Field.parts, namesOf_append, namesOf_append, namesOf_textParts, namesOf_textParts]
  rfl

theorem namesOf_default (d : Option DefaultValue) : namesOf (d.map Part.value).toList = [] := by
  cases d <;> rfl

theorem namesOf_namespace (n : Namespace) : namesOf n.parts = [] := by
  rw [Namespace.parts, namesOf_append, namesOf, List.filterMap_flatMap]
  have hnone : ∀ s, (textParts .ofNamespace s).filterMap Part.name? = [] := namesOf_textParts .ofNamespace
  simp only [hnone, List.flatMap_cons, List.flatMap_nil, List.append_nil, List.nil_append]
  rfl

/-- the names of a design are those of its definitions -/
theorem namesOf_parts (doc : ModelDocument) :
    namesOf doc.parts = namesOf (doc.definitions.toList.flatMap Definition.parts) := by
  have hnamespaces : namesOf (doc.namespaces.flatMap Namespace.parts) = [] := by
    rw [namesOf, List.filterMap_flatMap, List.flatMap_eq_nil_iff]
    exact fun n _ => namesOf_namespace n
  rw [ModelDocument.parts, namesOf_append, hnamespaces, List.nil_append]

/-- an element with a text that is not written as a name -/
theorem nameTexts_textElement {name text : String} (hname : name ∉ nameTags) (h : textElement (opcTag name) text = .ok e) :
    nameTexts e = [] := by
  obtain ⟨rfl, -⟩ := textElement_ok h
  have hne : ∀ key ∈ nameTags, opcTag name ≠ opcTag key := by
    intro key hkey heq
    have hlist := congrArg String.toList heq
    rw [opcTag, opcTag, String.toList_append, String.toList_append] at hlist
    rw [String.toList_inj.1 (List.append_cancel_left hlist)] at hname
    exact hname hkey
  rw [nameTexts, ownNameTexts, List.filterMap_eq_nil_iff.2 fun key hkey => if_neg (hne key hkey)]
  rfl

theorem nameTextsOf_description {d : String} (h : (textElement (opcTag "Description") d).map ([·]) = .ok es) :
    nameTextsOf es = [] := by
  obtain ⟨e, he, rfl⟩ := map_eq_ok_iff.1 h
  rw [nameTextsOf_singleton, nameTexts_textElement (by decide) he]

theorem nameTexts_labelElements {l : Labels} (h : labelElements l = .ok es) : nameTextsOf es = [] := by
  obtain ⟨browse, hbrowse, h⟩ := ok_of_bind h
  obtain ⟨display, -, h⟩ := ok_of_bind h
  have hnone : ∀ ds : List Element, nameTextsOf ds = [] →
      nameTextsOf ([browse, ⟨opcTag "DisplayName", [("Key", display)], some display, []⟩] ++ ds) = [] := by
    intro ds hds
    rw [nameTextsOf_append, hds, nameTextsOf, nameTexts_textElement (by decide) hbrowse, nameTextsOf_singleton]
    rfl
  dsimp only at h
  cases hd : l.description with
  | some d =>
    rw [hd] at h
    obtain ⟨ds, hds, h⟩ := ok_of_bind h
    cases h
    exact hnone ds (nameTextsOf_description hds)
  | none =>
    rw [hd] at h
    cases h
    exact hnone [] rfl

/-- attributes of other keys hold no names -/
theorem filter_of_keyed {ks : List String} (h : Keyed ks as) (hks : ∀ k ∈ ks, k ∉ nameKeys) :
    as.filter (nameKeys.contains ·.1) = [] := by
  refine List.filter_eq_nil_iff.2 fun a ha hmem => ?_
  exact hks a.1 (h.names.subset (List.mem_map.2 ⟨a, ha, rfl⟩)) (List.contains_iff_mem.1 hmem)

theorem nameTexts_fieldElement {f : Field} (h : fieldElement f = .ok e) : nameTexts e = [] := by
  obtain ⟨name, hname, h⟩ := ok_of_bind h
  obtain ⟨identifier, hidentifier, h⟩ := ok_of_bind h
  have hattributes := (textAttribute_ok hname).2.append (keyed_optionalAttribute hidentifier)
  have hnone : ∀ ds : List Element, nameTextsOf ds = [] →
      nameTexts ⟨opcTag "Field", name ++ identifier, none, ds⟩ = [] := fun ds hds => by
    rw [nameTexts_bare, filter_of_keyed hattributes (by decide), hds]
    rfl
  dsimp only at h
  cases hd : f.description with
  | some d =>
    rw [hd] at h
    obtain ⟨ds, hds, h⟩ := ok_of_bind h
    cases h
    exact hnone ds (nameTextsOf_description hds)
  | none =>
    rw [hd] at h
    cases h
    exact hnone [] rfl

/-- values are written in elements of a prefix of their own -/
theorem ownNameTexts_value (name : String) (text : Option String) : ownNameTexts (joined "uax" name) [] text = [] := by
  have hne : ∀ key ∈ nameTags, joined "uax" name ≠ opcTag key := by
    intro key _ heq
    have hlist := congrArg (fun s => s.toList.head?) heq
    simp [joined, opcTag, String.toList_append] at hlist
  rw [ownNameTexts, List.filterMap_eq_nil_iff.2 fun key hkey => if_neg (hne key hkey)]
  rfl

theorem nameTexts_valueElement {typeName : String} {v : Value} (h : valueElement typeName v = .ok e) : nameTexts e = [] := by
  obtain ⟨tag, htag, h⟩ := ok_of_bind h
  obtain ⟨text, -, h⟩ := ok_of_bind h
  obtain ⟨rfl, -⟩ := valueTag_ok htag
  obtain ⟨rfl, -⟩ := textElement_ok h
  rw [nameTexts, ownNameTexts_value]
  rfl

theorem nameTexts_defaultElement {d : DefaultValue} (h : defaultElement d = .ok e) : nameTexts e = [] := by
  have hnone : ∀ content : Element, nameTexts content = [] →
      nameTexts ⟨opcTag "DefaultValue", [], none, [content]⟩ = [] := fun content hcontent => by
    rw [nameTexts_bare, nameTextsOf_singleton, hcontent]
    rfl
  unfold defaultElement at h
  dsimp only at h
  split at h
  · obtain ⟨tag, htag, h⟩ := ok_of_bind h
    obtain ⟨values, hvalues, h⟩ := ok_of_bind h
    cases h
    obtain ⟨rfl, -⟩ := valueTag_ok htag
    refine hnone _ ?_
    rw [nameTexts, ownNameTexts_value, List.nil_append]
    refine nameTextsOf_eq_nil fun e he => ?_
    obtain ⟨v, -, hv⟩ := forall₂_mem_left (ok_of_mapM hvalues).flip he
    exact nameTexts_valueElement hv
  · obtain ⟨content, hcontent, h⟩ := ok_of_bind h
    cases h
    exact hnone _ (nameTexts_valueElement hcontent)

/-! ## Parts with names -/

theorem spells_nameAttribute {key : String} {n : SymbolicName} (hkey : key ∈ nameKeys)
    (h : nameAttribute doc key n = .ok as) : Spells doc (as.filter (nameKeys.contains ·.1)) [.name key n] := by
  obtain ⟨text, htext, rfl, -⟩ := nameAttribute_ok h
  have hkept : [(key, text)].filter (nameKeys.contains ·.1) = [(key, text)] :=
    List.filter_cons_of_pos (List.contains_iff_mem.2 hkey)
  rw [hkept]
  exact .cons ⟨rfl, htext⟩ .nil

theorem spells_optionalName {key : String} {n : Option SymbolicName} (hkey : key ∈ nameKeys)
    (h : optionalName doc key n = .ok as) : Spells doc (as.filter (nameKeys.contains ·.1)) (nameParts key n) := by
  cases n with
  | some n => exact spells_nameAttribute hkey h
  | none =>
    cases h
    exact .nil

theorem spells_referenceElement {r : Reference} (h : referenceElement doc r = .ok e) :
    Spells doc (nameTexts e) r.parts := by
  obtain ⟨typeText, htypeText, h⟩ := ok_of_bind h
  obtain ⟨type, htype, h⟩ := ok_of_bind h
  obtain ⟨targetText, htargetText, h⟩ := ok_of_bind h
  obtain ⟨target, htarget, h⟩ := ok_of_bind h
  cases h
  obtain ⟨rfl, -⟩ := textElement_ok htype
  obtain ⟨rfl, -⟩ := textElement_ok htarget
  have hinverse : (if r.inverse then [("IsInverse", "true")] else []).filter (nameKeys.contains ·.1) = [] := by
    split <;> rfl
  rw [nameTexts_bare, hinverse]
  exact .cons ⟨rfl, htypeText⟩ (.cons ⟨rfl, htargetText⟩ .nil)

theorem spells_referenceElements {rs : List Reference} (h : referenceElements doc rs = .ok es) :
    Spells doc (nameTextsOf es) (rs.flatMap Reference.parts) := by
  obtain ⟨all, hall, rfl⟩ := map_eq_ok_iff.1 h
  rw [nameTexts_group]
  exact spells_of_mapM (fun _ _ => spells_referenceElement) hall

/-- what is written after the names of a node has no names -/
theorem Spells.append_nil {xs : List (String × String)} {ps qs : List Part} (h : Spells doc xs ps) (hqs : namesOf qs = []) :
    Spells doc xs (ps ++ qs) := by
  have hnone : Spells doc [] qs := spells_nil hqs
  have happend := h.append hnone
  rw [List.append_nil] at happend
  exact happend

mutual

/-- the names in the element of a member are its own and those of all members below it -/
theorem spells_memberElement : ∀ {m : Member} {e : Element}, memberElement doc m = .ok e →
    Spells doc (nameTexts e) m.parts
  | .variableNode labels type rank access default, e, h => by
    rw [memberElement] at h
    obtain ⟨name, hname, h⟩ := ok_of_bind h
    obtain ⟨type', htype, h⟩ := ok_of_bind h
    obtain ⟨texts, htexts, h⟩ := ok_of_bind h
    have hnames : Spells doc ((name ++ type' ++ [("ValueRank", rank.name)] ++
        (access.map fun a => ("AccessLevel", a.name)).toList).filter (nameKeys.contains ·.1))
        ([.name "SymbolicName" labels.symbolic] ++ nameParts "TypeDefinition" type) := by
      have hrest : ([("ValueRank", rank.name)] ++ (access.map fun a => ("AccessLevel", a.name)).toList).filter
          (nameKeys.contains ·.1) = [] := by
        cases access <;> rfl
      rw [List.append_assoc, List.filter_append, hrest, List.append_nil, List.filter_append]
      exact (spells_nameAttribute (by decide) hname).append (spells_optionalName (by decide) htype)
    have hparts : ∀ vs : List Element, nameTextsOf vs = [] → Spells doc (nameTexts ⟨opcTag "Variable",
        name ++ type' ++ [("ValueRank", rank.name)] ++ (access.map fun a => ("AccessLevel", a.name)).toList, none,
        texts ++ vs⟩) (Member.variableNode labels type rank access default).parts := by
      intro vs hvs
      rw [nameTexts_bare, nameTextsOf_append, nameTexts_labelElements htexts, hvs, List.append_nil, List.append_nil,
        Member.parts, ← List.append_assoc]
      refine hnames.append_nil ?_
      rw [namesOf_append, namesOf_labels, namesOf_default]
      rfl
    dsimp only at h
    cases default with
    | some d =>
      obtain ⟨vs, hvs, h⟩ := ok_of_bind h
      cases h
      obtain ⟨v, hv, rfl⟩ := map_eq_ok_iff.1 hvs
      exact hparts [v] (by rw [nameTextsOf_singleton, nameTexts_defaultElement hv])
    | none =>
      cases h
      exact hparts [] rfl
  | .objectNode labels type references children, e, h => by
    rw [memberElement] at h
    obtain ⟨name, hname, h⟩ := ok_of_bind h
    obtain ⟨type', htype, h⟩ := ok_of_bind h
    obtain ⟨texts, htexts, h⟩ := ok_of_bind h
    obtain ⟨members, hmembers, h⟩ := ok_of_bind h
    obtain ⟨refs, hrefs, h⟩ := ok_of_bind h
    cases h
    rw [nameTexts_bare, nameTextsOf_append, nameTextsOf_append, nameTexts_labelElements htexts, nameTexts_group,
      List.nil_append, List.filter_append, Member.parts]
    have hbelow := (spells_memberElements hmembers).append (spells_referenceElements hrefs)
    have hlabels : Spells doc (nameTextsOf members ++ nameTextsOf refs)
        (labels.parts ++ (Member.partsOf children ++ references.flatMap Reference.parts)) :=
      (spells_nil (namesOf_labels labels)).append hbelow
    have hattributes := (spells_nameAttribute (by decide) hname).append (spells_optionalName (by decide) htype)
    have hall := hattributes.append hlabels
    rw [List.append_assoc [Part.name "SymbolicName" labels.symbolic]] at hall
    exact hall

theorem spells_memberElements : ∀ {ms : List Member} {es : List Element}, memberElements doc ms = .ok es →
    Spells doc (nameTextsOf es) (Member.partsOf ms)
  | [], es, h => by
    rw [memberElements] at h
    cases h
    rw [Member.partsOf]
    exact .nil
  | m :: ms, es, h => by
    rw [memberElements] at h
    obtain ⟨e, he, h⟩ := ok_of_bind h
    obtain ⟨es', hes, h⟩ := ok_of_bind h
    cases h
    rw [Member.partsOf, nameTextsOf]
    exact (spells_memberElement he).append (spells_memberElements hes)

end

theorem spells_contentAttributes {c : Content} (h : contentAttributes doc c = .ok as) :
    Spells doc (as.filter (nameKeys.contains ·.1)) c.nameParts := by
  cases c with
  | dataType base fields => exact spells_optionalName (by decide) h
  | objectType base isAbstract children =>
    obtain ⟨bs, hbase, h⟩ := ok_of_bind h
    cases h
    have habstract : (if isAbstract then [("IsAbstract", "true")] else []).filter (nameKeys.contains ·.1) = [] := by
      split <;> rfl
    rw [List.filter_append, habstract, List.append_nil]
    exact spells_optionalName (by decide) hbase
  | variableType base dataType rank =>
    obtain ⟨bs, hbase, h⟩ := ok_of_bind h
    obtain ⟨ts, htype, h⟩ := ok_of_bind h
    cases h
    have hrank : [("ValueRank", rank.name)].filter (nameKeys.contains ·.1) = [] := rfl
    rw [List.filter_append, hrank, List.append_nil, List.filter_append]
    exact (spells_optionalName (by decide) hbase).append (spells_optionalName (by decide) htype)
  | referenceType base => exact spells_optionalName (by decide) h
  | object type references children => exact spells_optionalName (by decide) h

theorem spells_contentElements {c : Content} (h : contentElements doc c = .ok es) :
    Spells doc (nameTextsOf es) c.innerParts := by
  cases c with
  | dataType base fields =>
    obtain ⟨all, hall, rfl⟩ := map_eq_ok_iff.1 h
    rw [nameTexts_group]
    refine spells_of_mapM (fun f e he => ?_) hall
    rw [nameTexts_fieldElement he]
    exact spells_nil (namesOf_field f)
  | objectType base isAbstract children =>
    obtain ⟨all, hall, rfl⟩ := map_eq_ok_iff.1 h
    rw [nameTexts_group]
    exact spells_memberElements hall
  | object type references children =>
    obtain ⟨members, hmembers, h⟩ := ok_of_bind h
    obtain ⟨refs, hrefs, h⟩ := ok_of_bind h
    cases h
    rw [nameTextsOf_append, nameTexts_group]
    exact (spells_memberElements hmembers).append (spells_referenceElements hrefs)
  | variableType _ _ _ | referenceType _ =>
    cases h
    exact .nil

theorem spells_definitionElement {d : Definition} (h : definitionElement doc d = .ok e) :
    Spells doc (nameTexts e) d.parts := by
  obtain ⟨name, hname, h⟩ := ok_of_bind h
  obtain ⟨attributes, hattributes, h⟩ := ok_of_bind h
  obtain ⟨texts, htexts, h⟩ := ok_of_bind h
  obtain ⟨elements, helements, h⟩ := ok_of_bind h
  cases h
  rw [nameTexts_bare, nameTextsOf_append, nameTexts_labelElements htexts, List.nil_append, List.filter_append,
    Definition.parts]
  have hlabels : Spells doc (nameTextsOf elements) (d.labels.parts ++ d.content.innerParts) :=
    (spells_nil (namesOf_labels d.labels)).append (spells_contentElements helements)
  have hall := ((spells_nameAttribute (by decide) hname).append (spells_contentAttributes hattributes)).append hlabels
  rw [List.append_assoc [Part.name "SymbolicName" d.name]] at hall
  exact hall

/-! ## The root -/

/-- the element of a namespace holds no names -/
theorem nameTexts_namespaceElement {n : Namespace} (h : namespaceElement n = .ok e) : nameTexts e = [] := by
  obtain ⟨ass, hass, h⟩ := ok_of_bind h
  obtain ⟨uri, -, h⟩ := ok_of_bind h
  cases h
  have hkeyed : Keyed ["Name", "Prefix", "InternalPrefix", "XmlNamespace", "XmlPrefix", "Version", "PublicationDate"]
    ass.flatten := keyed_flatten (ok_of_mapM hass)
  rw [nameTexts, ownNameTexts, filter_of_keyed hkeyed (by decide)]
  rfl

/-- a declaration of a prefix is no name -/
theorem declaration_not_mem (d : String × String) : (declaration d).1 ∉ nameKeys := by
  intro hmem
  have hfirst : ∀ key ∈ nameKeys, key.toList.head? ≠ some 'x' := by decide
  refine hfirst _ hmem ?_
  simp [declaration, joined, String.toList_append]

/-- **Names in a written design.** The names in the element of a design are those among its parts, one for one and in order. -/
theorem nameTexts_element (h : doc.element = .ok e) : Spells doc (nameTexts e) doc.parts := by
  obtain ⟨namespaces, definitions, hnamespaces, hdefinitions, rfl⟩ := doc.element_ok h
  have hkeys : (doc.declarations.map declaration ++ [("TargetNamespace", doc.target)]).filter
      (nameKeys.contains ·.1) = [] := by
    refine List.filter_eq_nil_iff.2 (List.forall_mem_append.2 ⟨fun a ha => ?_, by simp [nameKeys]⟩)
    obtain ⟨d, -, rfl⟩ := List.mem_map.1 ha
    rw [List.contains_iff_mem]
    exact declaration_not_mem d
  have hlist : nameTextsOf namespaces = [] := by
    refine nameTextsOf_eq_nil fun e he => ?_
    obtain ⟨n, -, hn⟩ := forall₂_mem_left hnamespaces.flip he
    exact nameTexts_namespaceElement hn
  have hnames : Spells doc (nameTextsOf definitions) (doc.definitions.toList.flatMap Definition.parts) :=
    spells_flatMap (hdefinitions.imp fun _ _ => spells_definitionElement)
  rw [nameTexts_bare, hkeys, nameTextsOf, nameTexts_bare, hlist, Spells, namesOf_parts]
  exact hnames

/-! ## Looking names up -/

/-- the prefixes that the attributes of an element declare -/
def declaredIn (e : Element) : Bindings :=
  e.attributes.filterMap fun a => (WrittenName.split a.1).declared?.map (·, a.2)

/-- the name that a text stands for where prefixes are bound -/
def resolveName (bs : Bindings) (text : String) : Option SymbolicName :=
  let n := WrittenName.split text
  (bs.lookup n.label).map (⟨·, n.localName⟩)

/-- **Prefixes of a written design.** The root declares the prefixes of the vocabulary for their namespaces, and one for the
namespace of the design, which is none of them. -/
theorem declaredIn_element (h : doc.element = .ok e) : declaredIn e = doc.declarations := by
  obtain ⟨namespaces, definitions, -, -, rfl⟩ := doc.element_ok h
  have htarget : (WrittenName.split "TargetNamespace").declared? = none := by decide
  have hdeclared : ∀ ds : Bindings, (ds.map declaration).filterMap
      (fun a => (WrittenName.split a.1).declared?.map (·, a.2)) = ds := by
    intro ds
    rw [List.filterMap_map]
    refine (List.filterMap_congr fun d _ => ?_).trans List.filterMap_some
    rw [Function.comp, declaration, WrittenName.split_joined (by decide)]
    rfl
  rw [declaredIn, List.filterMap_append, hdeclared, List.filterMap_cons, htarget]
  simp

theorem lookup_designPrefix (doc : ModelDocument) : doc.declarations.lookup doc.designPrefix = some doc.target := by
  have hne : ∀ label ∈ reservedPrefixes, (doc.designPrefix == label) = false := by
    rintro label hlabel
    rw [beq_eq_false_iff_ne]
    rintro rfl
    exact (not_mem_of_isReserved (isReserved_designPrefix doc)).1 hlabel
  simp only [ModelDocument.declarations, List.lookup_cons, hne _ (show "opc" ∈ reservedPrefixes by decide),
    hne _ (show "ua" ∈ reservedPrefixes by decide), hne _ (show "uax" ∈ reservedPrefixes by decide),
    hne _ (show "xsi" ∈ reservedPrefixes by decide), hne _ (show "xsd" ∈ reservedPrefixes by decide), beq_self_eq_true]

/-- a name that was written is found again, where the prefix of the design is a name -/
theorem resolveName_nameText (hdesign : isName doc.designPrefix.toList = true) {n : SymbolicName} {text : String}
    (h : doc.nameText n = .ok text) : resolveName doc.declarations text = some n := by
  have hresolve : ∀ label uri, isName label.toList = true → doc.declarations.lookup label = some uri →
      n.namespaceUri = uri → resolveName doc.declarations (joined label n.name) = some n := by
    intro label uri hlabel hlookup huri
    simp only [resolveName, WrittenName.split_joined hlabel, hlookup, Option.map_some, ← huri]
  unfold ModelDocument.nameText ModelDocument.prefixOf? at h
  by_cases htarget : n.namespaceUri = doc.target
  · rw [if_pos htarget] at h
    cases h
    exact hresolve _ _ hdesign (lookup_designPrefix doc) htarget
  · rw [if_neg htarget] at h
    by_cases hbase : n.namespaceUri = baseUri
    · rw [if_pos hbase] at h
      cases h
      exact hresolve "ua" baseUri (by decide) rfl hbase
    · rw [if_neg hbase] at h
      cases h

/-- a name of the design or of the vocabulary can be written -/
theorem nameText_isOk {n : SymbolicName} (h : n.namespaceUri = doc.target ∨ n.namespaceUri = baseUri) :
    ∃ text, doc.nameText n = .ok text := by
  unfold ModelDocument.nameText ModelDocument.prefixOf?
  by_cases htarget : n.namespaceUri = doc.target
  · rw [if_pos htarget]
    exact ⟨_, rfl⟩
  · rw [if_neg htarget, if_pos (h.resolve_left htarget)]
    exact ⟨_, rfl⟩

/-- the names in the element of a design, looked up in its root, are those among its parts -/
theorem resolve_element (h : doc.element = .ok e) :
    (nameTexts e).map (fun t => (t.1, resolveName (declaredIn e) t.2)) =
      (namesOf doc.parts).map fun n => (n.1, some n.2) := by
  have hdesign := (doc.checked_of_element h (doc.designPrefix, doc.target) (by simp [ModelDocument.declarations])).1
  have hnames : List.Forall₂ (WrittenAs doc) (nameTexts e) (namesOf doc.parts) := nameTexts_element h
  rw [declaredIn_element h]
  generalize nameTexts e = texts at hnames ⊢
  generalize namesOf doc.parts = names at hnames ⊢
  induction hnames with
  | nil => rfl
  | cons hw _ ih => rw [List.map_cons, List.map_cons, ih, hw.1, resolveName_nameText hdesign hw.2]

end YangDesign.Design
