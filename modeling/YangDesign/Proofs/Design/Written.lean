/-
The elements that a design is written in.

Each of them can be printed and read back where the prefixes of designs are bound (`Element.Fit`): its tag is made of a prefix
and a name, its attributes have names of their own in a fixed order (`Keyed`), and its texts have been checked. So it is for a
definition with all the members below it (`definitionElement_ok`) and for a namespace (`namespaceElement_ok`), and the
declarations of the root follow the rules (`declares_of_element`).
-/
import YangDesign.Design.Markup
import YangDesign.Proofs.Answers
import YangDesign.Proofs.Xml.RoundTrip

namespace YangDesign.Design

open Xml

/-! ## Checked parts -/

theorem checkText_eq_ok_iff {s t : String} : checkText s = .ok t ↔ s = t ∧ isText s = true := by
  unfold checkText
  split
  · rename_i h
    simp [h]
  · rename_i h
    simp [h]

theorem checkTag_ok {name tag : String} (h : checkTag name = .ok tag) : name = tag ∧ isName name.toList = true := by
  obtain ⟨-, -, h⟩ := ok_of_bind h
  dsimp only at h
  split at h
  · cases h
  · split at h
    · rename_i hname
      cases h
      exact ⟨rfl, hname⟩
    · cases h

theorem checkUri_ok {uri : String} (h : checkUri uri = .ok ()) :
    isText uri = true ∧ Uri.isReference uri = true := by
  obtain ⟨t, ht, h⟩ := ok_of_bind h
  split at h
  · rename_i huri
    exact ⟨(checkText_eq_ok_iff.1 ht).2, huri⟩
  · cases h

theorem checkPrefix_ok {label : String} (h : checkPrefix label = .ok ()) : isName label.toList = true := by
  obtain ⟨-, -, h⟩ := ok_of_bind h
  split at h
  · rename_i hlabel
    exact hlabel
  · cases h

/-! ## Attributes -/

/-- attributes with names from a list, in its order, and texts that a document may hold -/
structure Keyed (ks : List String) (as : List (String × String)) : Prop where
  names : (as.map Prod.fst).Sublist ks
  values : ∀ a ∈ as, isText a.2 = true

variable {ks ls : List String} {as bs : List (String × String)}

theorem keyed_nil (ks : List String) : Keyed ks [] :=
  ⟨List.nil_sublist ks, fun a ha => by cases ha⟩

theorem keyed_singleton {key value : String} (h : isText value = true) : Keyed [key] [(key, value)] :=
  ⟨List.Sublist.refl _, fun a ha => by rw [List.mem_singleton.1 ha]; exact h⟩

theorem Keyed.append (h : Keyed ks as) (h' : Keyed ls bs) : Keyed (ks ++ ls) (as ++ bs) := by
  refine ⟨?_, List.forall_mem_append.2 ⟨h.values, h'.values⟩⟩
  rw [List.map_append]
  exact h.names.append h'.names

theorem Keyed.mono (h : Keyed ks as) (hs : ks.Sublist ls) : Keyed ls as :=
  ⟨h.names.trans hs, h.values⟩

theorem Keyed.plain (h : Keyed ks as) (hks : ∀ k ∈ ks, isName k.toList = true ∧ k ≠ "xmlns") (hnodup : ks.Nodup) :
    PlainAttributes as :=
  ⟨fun a ha => hks a.1 (h.names.subset (List.mem_map.2 ⟨a, ha, rfl⟩)), h.values, h.names.nodup hnodup⟩

theorem textAttribute_ok {key value : String} (h : textAttribute key value = .ok as) :
    as = [(key, value)] ∧ Keyed [key] as := by
  obtain ⟨v, hv, rfl⟩ := map_eq_ok_iff.1 h
  obtain ⟨rfl, hchars⟩ := checkText_eq_ok_iff.1 hv
  exact ⟨rfl, keyed_singleton hchars⟩

theorem keyed_optionalAttribute {key : String} {value : Option String} (h : optionalAttribute key value = .ok as) :
    Keyed [key] as := by
  cases value with
  | some v => exact (textAttribute_ok h).2
  | none =>
    cases h
    exact keyed_nil _

variable {doc : ModelDocument}

theorem nameAttribute_ok {key : String} {n : SymbolicName} (h : nameAttribute doc key n = .ok as) :
    ∃ text, doc.nameText n = .ok text ∧ as = [(key, text)] ∧ Keyed [key] as := by
  obtain ⟨text, htext, h⟩ := ok_of_bind h
  obtain ⟨has, hkeyed⟩ := textAttribute_ok h
  exact ⟨text, htext, has, hkeyed⟩

theorem keyed_optionalName {key : String} {n : Option SymbolicName} (h : optionalName doc key n = .ok as) :
    Keyed [key] as := by
  cases n with
  | some n =>
    obtain ⟨-, -, -, hkeyed⟩ := nameAttribute_ok h
    exact hkeyed
  | none =>
    cases h
    exact keyed_nil _

theorem keyed_flatten {pairs : List (String × Option String)} {ass : List (List (String × String))}
    (h : List.Forall₂ (fun p as => optionalAttribute p.1 p.2 = .ok as) pairs ass) :
    Keyed (pairs.map Prod.fst) ass.flatten := by
  induction h with
  | nil => exact keyed_nil _
  | cons hp _ ih => exact (keyed_optionalAttribute hp).append ih

/-! ## Elements -/

/-- the prefixes of tags are bound -/
structure BindsTags (bs : Bindings) : Prop where
  opc : bs.lookup "opc" = some modelDesignUri
  uax : bs.lookup "uax" = some typesUri

section Elements

variable {bs : Bindings} {text : Option String} {children : List Element} {e : Element} {es : List Element}

theorem textElement_ok {tag text : String} (h : textElement tag text = .ok e) :
    e = ⟨tag, [], some text, []⟩ ∧ isText text = true := by
  obtain ⟨t, ht, rfl⟩ := map_eq_ok_iff.1 h
  obtain ⟨rfl, hchars⟩ := checkText_eq_ok_iff.1 ht
  exact ⟨rfl, hchars⟩

theorem valueTag_ok {name tag : String} (h : valueTag name = .ok tag) :
    tag = joined "uax" name ∧ isName name.toList = true := by
  obtain ⟨n, hn, rfl⟩ := map_eq_ok_iff.1 h
  obtain ⟨rfl, hname⟩ := checkTag_ok hn
  exact ⟨rfl, hname⟩

theorem opcTag_eq (name : String) : opcTag name = joined "opc" name := rfl

/-- an element of designs -/
theorem BindsTags.fit_opc (hbs : BindsTags bs) {name : String} (hname : isName name.toList = true) (has : PlainAttributes as)
    (htext : text.all isText = true) (hchildren : ∀ e ∈ children, e.Fit bs) :
    Element.Fit bs ⟨opcTag name, as, text, children⟩ := by
  rw [opcTag_eq]
  exact .mk (by decide) hname hbs.opc has htext hchildren

/-- an element of encoded values -/
theorem BindsTags.fit_uax (hbs : BindsTags bs) {name : String} (hname : isName name.toList = true)
    (htext : text.all isText = true) (hchildren : ∀ e ∈ children, e.Fit bs) :
    Element.Fit bs ⟨joined "uax" name, [], text, children⟩ :=
  .mk (by decide) hname hbs.uax ⟨by simp, by simp, List.nodup_nil⟩ htext hchildren

theorem fit_nil : ∀ e ∈ ([] : List Element), e.Fit bs :=
  fun e he => by cases he

theorem fit_singleton (h : e.Fit bs) : ∀ e' ∈ [e], e'.Fit bs :=
  fun e' he => by rw [List.mem_singleton.1 he]; exact h

/-- elements of which each comes from something -/
theorem fit_of_mapM {α : Type} {f : α → Written Element} (hf : ∀ a e, f a = .ok e → e.Fit bs) {as : List α}
    (h : as.mapM f = .ok es) : ∀ e ∈ es, e.Fit bs := by
  intro e he
  obtain ⟨a, -, ha⟩ := forall₂_mem_left (ok_of_mapM h).flip he
  exact hf a e ha

theorem fit_of_map {x : Written Element} (hx : ∀ e, x = .ok e → e.Fit bs) (h : x.map ([·]) = .ok es) :
    ∀ e ∈ es, e.Fit bs := by
  obtain ⟨e, he, rfl⟩ := map_eq_ok_iff.1 h
  exact fit_singleton (hx e he)

theorem plainAttributes_nil : PlainAttributes [] :=
  ⟨by simp, by simp, List.nodup_nil⟩

variable (hbs : BindsTags bs)

include hbs

theorem BindsTags.fit_textElement {name text : String} (hname : isName name.toList = true)
    (h : textElement (opcTag name) text = .ok e) : e.Fit bs := by
  obtain ⟨rfl, hchars⟩ := textElement_ok h
  exact hbs.fit_opc hname plainAttributes_nil hchars fit_nil

theorem BindsTags.fit_group {name : String} (hname : isName name.toList = true) (h : ∀ e ∈ es, e.Fit bs) :
    ∀ e ∈ group name es, e.Fit bs := by
  unfold group
  split
  · exact fit_nil
  · exact fit_singleton (hbs.fit_opc hname plainAttributes_nil rfl h)

theorem BindsTags.fit_labelElements {l : Labels} (h : labelElements l = .ok es) : ∀ e ∈ es, e.Fit bs := by
  obtain ⟨browse, hbrowse, h⟩ := ok_of_bind h
  obtain ⟨display, hdisplay, h⟩ := ok_of_bind h
  obtain ⟨rfl, hchars⟩ := checkText_eq_ok_iff.1 hdisplay
  have hkey : PlainAttributes [("Key", l.display)] := (keyed_singleton hchars).plain (by decide) (by decide)
  have hname : Element.Fit bs ⟨opcTag "DisplayName", [("Key", l.display)], some l.display, []⟩ :=
    hbs.fit_opc (by decide) hkey hchars fit_nil
  have hfit : ∀ ds : List Element, (∀ e ∈ ds, e.Fit bs) →
      ∀ e ∈ [browse, ⟨opcTag "DisplayName", [("Key", l.display)], some l.display, []⟩] ++ ds, e.Fit bs := fun ds hds =>
    List.forall_mem_append.2 ⟨List.forall_mem_cons.2 ⟨hbs.fit_textElement (by decide) hbrowse, fit_singleton hname⟩, hds⟩
  dsimp only at h
  cases hd : l.description with
  | some d =>
    rw [hd] at h
    obtain ⟨ds, hds, h⟩ := ok_of_bind h
    cases h
    exact hfit ds (fit_of_map (fun _ => hbs.fit_textElement (by decide)) hds)
  | none =>
    rw [hd] at h
    cases h
    exact hfit [] fit_nil

theorem BindsTags.fit_valueElement {typeName : String} {v : Value} (h : valueElement typeName v = .ok e) : e.Fit bs := by
  obtain ⟨tag, htag, h⟩ := ok_of_bind h
  obtain ⟨text, -, h⟩ := ok_of_bind h
  obtain ⟨rfl, hname⟩ := valueTag_ok htag
  obtain ⟨rfl, hchars⟩ := textElement_ok h
  exact hbs.fit_uax hname hchars fit_nil

theorem BindsTags.fit_defaultElement {d : DefaultValue} (h : defaultElement d = .ok e) : e.Fit bs := by
  have hfit : ∀ content : Element, content.Fit bs → Element.Fit bs ⟨opcTag "DefaultValue", [], none, [content]⟩ :=
    fun content hcontent => hbs.fit_opc (by decide) plainAttributes_nil rfl (fit_singleton hcontent)
  unfold defaultElement at h
  dsimp only at h
  split at h
  · obtain ⟨tag, htag, h⟩ := ok_of_bind h
    obtain ⟨values, hvalues, h⟩ := ok_of_bind h
    cases h
    obtain ⟨rfl, hname⟩ := valueTag_ok htag
    exact hfit _ (hbs.fit_uax hname rfl (fit_of_mapM (fun _ _ => hbs.fit_valueElement) hvalues))
  · obtain ⟨content, hcontent, h⟩ := ok_of_bind h
    cases h
    exact hfit _ (hbs.fit_valueElement hcontent)

theorem BindsTags.fit_referenceElement {r : Reference} (h : referenceElement doc r = .ok e) : e.Fit bs := by
  obtain ⟨typeText, -, h⟩ := ok_of_bind h
  obtain ⟨type, htype, h⟩ := ok_of_bind h
  obtain ⟨targetText, -, h⟩ := ok_of_bind h
  obtain ⟨target, htarget, h⟩ := ok_of_bind h
  cases h
  have hinverse : Keyed ["IsInverse"] (if r.inverse then [("IsInverse", "true")] else []) := by
    split
    · exact keyed_singleton (by decide)
    · exact keyed_nil _
  exact hbs.fit_opc (by decide) (hinverse.plain (by decide) (by decide)) rfl (List.forall_mem_cons.2
    ⟨hbs.fit_textElement (by decide) htype, fit_singleton (hbs.fit_textElement (by decide) htarget)⟩)

theorem BindsTags.fit_referenceElements {rs : List Reference} (h : referenceElements doc rs = .ok es) :
    ∀ e ∈ es, e.Fit bs := by
  obtain ⟨all, hall, rfl⟩ := map_eq_ok_iff.1 h
  exact hbs.fit_group (by decide) (fit_of_mapM (fun _ _ => hbs.fit_referenceElement) hall)

theorem BindsTags.fit_fieldElement {f : Field} (h : fieldElement f = .ok e) : e.Fit bs := by
  obtain ⟨name, hname, h⟩ := ok_of_bind h
  obtain ⟨identifier, hidentifier, h⟩ := ok_of_bind h
  have hkeyed := (textAttribute_ok hname).2.append (keyed_optionalAttribute hidentifier)
  have hfit : ∀ ds : List Element, (∀ e ∈ ds, e.Fit bs) →
      Element.Fit bs ⟨opcTag "Field", name ++ identifier, none, ds⟩ := fun ds hds =>
    hbs.fit_opc (by decide) (hkeyed.plain (by decide) (by decide)) rfl hds
  dsimp only at h
  cases hd : f.description with
  | some d =>
    rw [hd] at h
    obtain ⟨ds, hds, h⟩ := ok_of_bind h
    cases h
    exact hfit ds (fit_of_map (fun _ => hbs.fit_textElement (by decide)) hds)
  | none =>
    rw [hd] at h
    cases h
    exact hfit [] fit_nil

end Elements

/-! ## Members -/

mutual

/-- the element of a member, with those of all members below it -/
theorem BindsTags.fit_memberElement {bs : Bindings} (hbs : BindsTags bs) : ∀ {m : Member} {e : Element},
    memberElement doc m = .ok e → e.Fit bs
  | .variableNode labels type rank access default, e, h => by
    rw [memberElement] at h
    obtain ⟨name, hname, h⟩ := ok_of_bind h
    obtain ⟨type, htype, h⟩ := ok_of_bind h
    obtain ⟨texts, htexts, h⟩ := ok_of_bind h
    obtain ⟨-, -, -, hkeyed⟩ := nameAttribute_ok hname
    have hrank : Keyed ["ValueRank"] [("ValueRank", rank.name)] := keyed_singleton (by cases rank <;> decide)
    have haccess : Keyed ["AccessLevel"] (access.map fun a => ("AccessLevel", a.name)).toList := by
      cases access with
      | none => exact keyed_nil _
      | some a => exact keyed_singleton (by cases a <;> decide)
    have hattributes := ((hkeyed.append (keyed_optionalName htype)).append hrank).append haccess
    have hfit : ∀ vs : List Element, (∀ e ∈ vs, e.Fit bs) → Element.Fit bs
        ⟨opcTag "Variable", name ++ type ++ [("ValueRank", rank.name)] ++
          (access.map fun a => ("AccessLevel", a.name)).toList, none, texts ++ vs⟩ :=
      fun vs hvs => hbs.fit_opc (by decide) (hattributes.plain (by decide) (by decide)) rfl
        (List.forall_mem_append.2 ⟨hbs.fit_labelElements htexts, hvs⟩)
    dsimp only at h
    cases default with
    | some d =>
      obtain ⟨vs, hvs, h⟩ := ok_of_bind h
      cases h
      exact hfit vs (fit_of_map (fun _ => hbs.fit_defaultElement) hvs)
    | none =>
      cases h
      exact hfit [] fit_nil
  | .objectNode labels type references children, e, h => by
    rw [memberElement] at h
    obtain ⟨name, hname, h⟩ := ok_of_bind h
    obtain ⟨type, htype, h⟩ := ok_of_bind h
    obtain ⟨texts, htexts, h⟩ := ok_of_bind h
    obtain ⟨members, hmembers, h⟩ := ok_of_bind h
    obtain ⟨references, hreferences, h⟩ := ok_of_bind h
    cases h
    obtain ⟨-, -, -, hkeyed⟩ := nameAttribute_ok hname
    have hattributes := hkeyed.append (keyed_optionalName htype)
    exact hbs.fit_opc (by decide) (hattributes.plain (by decide) (by decide)) rfl (List.forall_mem_append.2
      ⟨List.forall_mem_append.2 ⟨hbs.fit_labelElements htexts,
        hbs.fit_group (by decide) (BindsTags.fit_memberElements hbs hmembers)⟩, hbs.fit_referenceElements hreferences⟩)

/-- the elements of some members -/
theorem BindsTags.fit_memberElements {bs : Bindings} (hbs : BindsTags bs) : ∀ {ms : List Member} {es : List Element},
    memberElements doc ms = .ok es → ∀ e ∈ es, e.Fit bs
  | [], es, h => by
    rw [memberElements] at h
    cases h
    exact fit_nil
  | m :: ms, es, h => by
    rw [memberElements] at h
    obtain ⟨e, he, h⟩ := ok_of_bind h
    obtain ⟨es, hes, h⟩ := ok_of_bind h
    cases h
    exact List.forall_mem_cons.2 ⟨BindsTags.fit_memberElement hbs he, BindsTags.fit_memberElements hbs hes⟩

end

/-! ## Definitions and namespaces -/

theorem keyed_contentAttributes {c : Content} (h : contentAttributes doc c = .ok as) :
    Keyed ["BaseType", "IsAbstract", "DataType", "ValueRank", "TypeDefinition"] as := by
  cases c with
  | dataType base _ => exact (keyed_optionalName h).mono (by decide)
  | objectType base isAbstract _ =>
    obtain ⟨base, hbase, h⟩ := ok_of_bind h
    cases h
    have habstract : Keyed ["IsAbstract"] (if isAbstract then [("IsAbstract", "true")] else []) := by
      split
      · exact keyed_singleton (by decide)
      · exact keyed_nil _
    exact ((keyed_optionalName hbase).append habstract).mono (by decide)
  | variableType base dataType rank =>
    obtain ⟨base, hbase, h⟩ := ok_of_bind h
    obtain ⟨dataType, hdataType, h⟩ := ok_of_bind h
    cases h
    have hrank : Keyed ["ValueRank"] [("ValueRank", rank.name)] := keyed_singleton (by cases rank <;> decide)
    exact (((keyed_optionalName hbase).append (keyed_optionalName hdataType)).append hrank).mono (by decide)
  | referenceType base => exact (keyed_optionalName h).mono (by decide)
  | object type _ _ => exact (keyed_optionalName h).mono (by decide)

theorem BindsTags.fit_contentElements {bs : Bindings} (hbs : BindsTags bs) {c : Content} {es : List Element}
    (h : contentElements doc c = .ok es) : ∀ e ∈ es, e.Fit bs := by
  cases c with
  | dataType _ fields =>
    obtain ⟨all, hall, rfl⟩ := map_eq_ok_iff.1 h
    exact hbs.fit_group (by decide) (fit_of_mapM (fun _ _ => hbs.fit_fieldElement) hall)
  | objectType _ _ children =>
    obtain ⟨all, hall, rfl⟩ := map_eq_ok_iff.1 h
    exact hbs.fit_group (by decide) (hbs.fit_memberElements hall)
  | object _ references children =>
    obtain ⟨members, hmembers, h⟩ := ok_of_bind h
    obtain ⟨references, hreferences, h⟩ := ok_of_bind h
    cases h
    exact List.forall_mem_append.2 ⟨hbs.fit_group (by decide) (hbs.fit_memberElements hmembers),
      hbs.fit_referenceElements hreferences⟩
  | variableType _ _ _ | referenceType _ =>
    cases h
    exact fit_nil

/-- **The element of a definition** has the tag of its kind, and its name comes first. -/
theorem BindsTags.definitionElement_ok {bs : Bindings} (hbs : BindsTags bs) {d : Definition} {e : Element}
    (h : definitionElement doc d = .ok e) : ∃ text attributes children, doc.nameText d.name = .ok text ∧
      e = ⟨opcTag d.kind.element, ("SymbolicName", text) :: attributes, none, children⟩ ∧ e.Fit bs := by
  obtain ⟨name, hname, h⟩ := ok_of_bind h
  obtain ⟨attributes, hattributes, h⟩ := ok_of_bind h
  obtain ⟨texts, htexts, h⟩ := ok_of_bind h
  obtain ⟨elements, helements, h⟩ := ok_of_bind h
  cases h
  obtain ⟨text, htext, rfl, hkeyed⟩ := nameAttribute_ok hname
  have hall := hkeyed.append (keyed_contentAttributes hattributes)
  refine ⟨text, attributes, texts ++ elements, htext, rfl, hbs.fit_opc ?_ (hall.plain (by decide) (by decide)) rfl ?_⟩
  · cases d.kind <;> decide
  · exact List.forall_mem_append.2 ⟨hbs.fit_labelElements htexts, hbs.fit_contentElements helements⟩

/-- the element of a namespace has its name and its URI -/
theorem BindsTags.namespaceElement_ok {bs : Bindings} (hbs : BindsTags bs) {n : Namespace} {e : Element}
    (h : namespaceElement n = .ok e) : ∃ attributes,
      e = ⟨opcTag "Namespace", ("Name", n.name) :: attributes, some n.uri, []⟩ ∧ e.Fit bs := by
  obtain ⟨ass, hass, h⟩ := ok_of_bind h
  obtain ⟨uri, huri, h⟩ := ok_of_bind h
  cases h
  obtain ⟨rfl, hchars⟩ := checkText_eq_ok_iff.1 huri
  have hall := ok_of_mapM hass
  have hkeyed : Keyed ["Name", "Prefix", "InternalPrefix", "XmlNamespace", "XmlPrefix", "Version", "PublicationDate"]
    ass.flatten := keyed_flatten hall
  have hfit : Element.Fit bs ⟨opcTag "Namespace", ass.flatten, some n.uri, []⟩ :=
    hbs.fit_opc (by decide) (hkeyed.plain (by decide) (by decide))
      hchars fit_nil
  cases hall with
  | cons hname _ =>
    obtain ⟨rfl, -⟩ := textAttribute_ok hname
    exact ⟨_, rfl, hfit⟩

/-! ## The root -/

theorem isReserved_designPrefix (doc : ModelDocument) : isReserved doc.designPrefix = false := by
  unfold ModelDocument.designPrefix
  dsimp only
  split
  · decide
  · split
    · decide
    · rename_i h
      simpa using h

theorem not_mem_of_isReserved {label : String} (h : isReserved label = false) :
    label ∉ reservedPrefixes ∧ label ≠ "xml" ∧ label ≠ "xmlns" := by
  have hmem : label ∉ reservedPrefixes := by
    intro hmem
    rw [isReserved, List.contains_iff_mem.2 hmem] at h
    cases h
  refine ⟨hmem, ?_, ?_⟩
  · rintro rfl
    cases h
  · rintro rfl
    cases h

theorem bindsTags_declarations (doc : ModelDocument) : BindsTags (doc.declarations ++ .initial) :=
  ⟨rfl, rfl⟩

/-- the declarations of the root have been checked -/
theorem ModelDocument.checked_of_element {e : Element} (h : doc.element = .ok e) : ∀ d ∈ doc.declarations,
    isName d.1.toList = true ∧ isText d.2 = true ∧ Uri.isReference d.2 = true := by
  obtain ⟨⟨⟩, h, -⟩ := ok_of_bind h
  intro d hd
  have hd := forM_eq_ok_iff.1 h d hd
  obtain ⟨⟨⟩, huri, hlabel⟩ := ok_of_bind hd
  exact ⟨checkPrefix_ok hlabel, checkUri_ok huri⟩

/-- the declarations of the root follow the rules -/
theorem ModelDocument.declares_of_element {e : Element} (h : doc.element = .ok e)
    (htarget : doc.target ≠ "" ∧ doc.target ≠ xmlUri ∧ doc.target ≠ xmlnsUri) : Declares doc.declarations := by
  have hchecked := doc.checked_of_element h
  obtain ⟨hreserved, hxml, hxmlns⟩ := not_mem_of_isReserved (isReserved_designPrefix doc)
  have hlabels : ∀ d ∈ doc.declarations, d.1 ≠ "xml" ∧ d.1 ≠ "xmlns" := by
    simp only [ModelDocument.declarations, List.forall_mem_cons, List.not_mem_nil, false_implies, implies_true, and_true]
    exact ⟨by decide, by decide, by decide, by decide, by decide, hxml, hxmlns⟩
  have huris : ∀ d ∈ doc.declarations, d.2 ≠ "" ∧ d.2 ≠ xmlUri ∧ d.2 ≠ xmlnsUri := by
    simp only [ModelDocument.declarations, List.forall_mem_cons, List.not_mem_nil, false_implies, implies_true, and_true]
    exact ⟨by decide, by decide, by decide, by decide, by decide, htarget⟩
  have hnodup : (doc.declarations.map Prod.fst).Nodup := by
    have hlist : doc.declarations.map Prod.fst = reservedPrefixes ++ [doc.designPrefix] := rfl
    rw [hlist, List.nodup_append]
    refine ⟨by decide, List.nodup_singleton _, fun a ha b hb => ?_⟩
    rw [List.mem_singleton.1 hb]
    rintro rfl
    exact hreserved ha
  exact ⟨fun d hd => ⟨(hchecked d hd).1, hlabels d hd⟩,
    fun d hd => ⟨(huris d hd).1, (huris d hd).2.1, (huris d hd).2.2, (hchecked d hd).2.2⟩,
    fun d hd => (hchecked d hd).2.1, hnodup⟩

/-- the parts of the root -/
theorem ModelDocument.element_ok {e : Element} (h : doc.element = .ok e) : ∃ namespaces definitions,
    List.Forall₂ (fun n e => namespaceElement n = .ok e) doc.namespaces namespaces ∧
    List.Forall₂ (fun d e => definitionElement doc d = .ok e) doc.definitions.toList definitions ∧
    e = ⟨joined "opc" "ModelDesign", doc.declarations.map declaration ++ [("TargetNamespace", doc.target)], none,
      ⟨opcTag "Namespaces", [], none, namespaces⟩ :: definitions⟩ := by
  obtain ⟨⟨⟩, -, h⟩ := ok_of_bind h
  obtain ⟨namespaces, hnamespaces, h⟩ := ok_of_bind h
  obtain ⟨definitions, hdefinitions, h⟩ := ok_of_bind h
  cases h
  exact ⟨namespaces, definitions, ok_of_mapM hnamespaces, ok_of_mapM hdefinitions, rfl⟩

end YangDesign.Design
