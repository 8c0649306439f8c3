/-
A printed document is read back.

Between two tags, characters are read as a change of the content around them (`Reads`), and printed parts that stand side by
side are read one after the other (`Reads.append`). So an element is read as it was printed, at every depth, with the
indentation before its first child as text (`Element.Fit.readsElement`), and a document gives its root (`parse?_render`).
-/
import YangDesign.Proofs.Xml.Heads

namespace YangDesign.Xml

open Reading

/-! ## Elements -/

mutual

/-- the number of elements that are open within an element, at most -/
def Element.height : Element → Nat
  | ⟨_, _, _, children⟩ => Element.heightAll children + 1

/-- the number of elements that are open within some elements, at most -/
def Element.heightAll : List Element → Nat
  | [] => 0
  | e :: es => max e.height (Element.heightAll es)

end

mutual

/-- an element as it is read: its names in namespaces, and the indentation before its first child as text -/
def Element.qualified (bs : Bindings) (pretty : Bool) (depth : Nat) : Element → Qualified
  | ⟨tag, attributes, text, children⟩ =>
    let name := WrittenName.split tag
    let inner := pretty && text.isNone
    ⟨(bs.lookup name.label).getD "", name.localName, attributes.map fun a => (("", a.1), a.2),
      text.getD "" ++ (if children.isEmpty then "" else indentation inner (depth + 1)),
      Element.qualifiedAll bs inner (depth + 1) children⟩

/-- elements as they are read -/
def Element.qualifiedAll (bs : Bindings) (pretty : Bool) (depth : Nat) : List Element → List Qualified
  | [] => []
  | e :: es => e.qualified bs pretty depth :: Element.qualifiedAll bs pretty depth es

end

theorem Element.qualifiedAll_eq_map (bs : Bindings) (pretty : Bool) (depth : Nat) (es : List Element) :
    Element.qualifiedAll bs pretty depth es = es.map (Element.qualified bs pretty depth) := by
  induction es with
  | nil => rfl
  | cons e es ih => rw [Element.qualifiedAll, ih, List.map_cons]

/-- an element that can be printed and read back within some bindings -/
inductive Element.Fit (bs : Bindings) : Element → Prop where
  | mk {label localName uri : String} {attributes : List (String × String)} {text : Option String}
      {children : List Element} : isName label.toList = true → isName localName.toList = true →
    bs.lookup label = some uri → PlainAttributes attributes → text.all isText = true →
    (∀ c ∈ children, Fit bs c) → Fit bs ⟨joined label localName, attributes, text, children⟩

/-! ## Changes of content -/

namespace Walk

theorem update_id (w : Walk) : w.update id = w := by
  obtain ⟨_ | ⟨o, os⟩, outside⟩ := w <;> rfl

theorem update_update (w : Walk) (f g : Content → Content) : (w.update f).update g = w.update (g ∘ f) := by
  obtain ⟨_ | ⟨o, os⟩, outside⟩ := w <;> rfl

@[simp] theorem bindings_update (w : Walk) (f : Content → Content) : (w.update f).bindings = w.bindings := by
  obtain ⟨_ | ⟨o, os⟩, outside⟩ := w <;> rfl

@[simp] theorem length_update (w : Walk) (f : Content → Content) : (w.update f).opened.length = w.opened.length := by
  obtain ⟨_ | ⟨o, os⟩, outside⟩ := w <;> rfl

end Walk

/-- tokens within an element leave it open -/
def Balanced (ts : List Token) : Prop :=
  ∀ depth seen us, isDocument (depth + 1) seen (ts ++ us) = isDocument (depth + 1) seen us

/-- tokens change the content of the innermost element, quietly, if `height` more elements may be open -/
def Changes (bs : Bindings) (height : Nat) (ts : List Token) (f : Content → Content) : Prop :=
  ∀ entity nesting (w : Walk), w.bindings = bs → w.opened.length + height ≤ depthLimit →
    Quiet (ts.foldlM (Walk.step (.initial false) entity nesting 0) w) (w.update f)

/-- characters are read as a change of the content around them, ahead of what may follow them -/
structure Reads (follows : List Char → Prop) (bs : Bindings) (height : Nat) (cs : List Char) (f : Content → Content) :
    Prop where
  unified : '\r' ∉ cs
  tokens : ∃ ts, (∀ rest us, follows rest → Lexes rest us → Lexes (cs ++ rest) (ts ++ us)) ∧ Balanced ts ∧
    Changes bs height ts f

section Rules

variable {follows follows' : List Char → Prop} {bs : Bindings} {height height' : Nat} {cs cs' : List Char}
  {f g : Content → Content}

theorem reads_nil : Reads follows bs height [] id := by
  refine ⟨by simp, [], fun rest us _ h => h, fun _ _ _ => rfl, fun entity nesting w _ _ => ?_⟩
  rw [Walk.update_id]
  exact quiet_pure w

theorem Reads.weaken (h : Reads follows bs height cs f) (hf : ∀ rest, follows' rest → follows rest)
    (hh : height ≤ height') : Reads follows' bs height' cs f := by
  obtain ⟨hunified, ts, hlexes, hbalanced, hchanges⟩ := h
  exact ⟨hunified, ts, fun rest us hrest => hlexes rest us (hf rest hrest), hbalanced,
    fun entity nesting w hw hroom => hchanges entity nesting w hw (by omega)⟩

/-- parts side by side are read one after the other -/
theorem Reads.append (h : Reads follows bs height cs f) (h' : Reads follows' bs height cs' g)
    (hf : ∀ rest, follows' rest → follows (cs' ++ rest)) : Reads follows' bs height (cs ++ cs') (g ∘ f) := by
  obtain ⟨hunified, ts, hlexes, hbalanced, hchanges⟩ := h
  obtain ⟨hunified', ts', hlexes', hbalanced', hchanges'⟩ := h'
  refine ⟨?_, ts ++ ts', fun rest us hrest hus => ?_, fun depth seen us => ?_, fun entity nesting w hw hroom => ?_⟩
  · rw [List.mem_append]
    exact not_or.2 ⟨hunified, hunified'⟩
  · rw [List.append_assoc, List.append_assoc]
    exact hlexes _ _ (hf rest hrest) (hlexes' rest us hrest hus)
  · rw [List.append_assoc, hbalanced, hbalanced']
  · rw [List.foldlM_append, ← Walk.update_update]
    exact (hchanges entity nesting w hw hroom).bind
      (hchanges' entity nesting _ (by rw [Walk.bindings_update, hw]) (by rw [Walk.length_update]; exact hroom))

theorem addText_addText (c : Content) (s t : String) : (c.addText s).addText t = c.addText (s ++ t) := by
  unfold Content.addText
  split
  · rfl
  · simp [String.append_assoc]

theorem addText_empty (c : Content) : c.addText "" = c := by
  unfold Content.addText
  split
  · rfl
  · rw [String.append_empty]

theorem changes_text (bs : Bindings) (height : Nat) {ts : List Token} {cs : List Char} (h : IsText ts cs) :
    Balanced ts ∧ Changes bs height ts (·.addText (.ofList cs)) := by
  obtain ⟨ps, rfl, rfl⟩ := h
  constructor
  · intro depth seen us
    induction ps with
    | nil => rfl
    | cons p ps ih =>
      rw [List.map_cons, List.cons_append, isDocument]
      · exact ih
      · exact fun _ _ h => by cases h
      · exact fun _ h => by cases h
  · intro entity nesting w hw hroom
    induction ps generalizing w with
    | nil =>
      have hsame : w.update (·.addText (.ofList [])) = w := by
        refine Eq.trans ?_ (Walk.update_id w)
        exact congrArg (w.update ·) (funext fun c => addText_empty c)
      rw [List.map_nil, List.map_nil, List.flatten_nil, hsame]
      exact quiet_pure w
    | cons p ps ih =>
      have hboth : w.update (·.addText (.ofList (p.1 ++ (ps.map Prod.fst).flatten))) =
          (w.update (·.addText (.ofList p.1))).update (·.addText (.ofList (ps.map Prod.fst).flatten)) := by
        rw [Walk.update_update]
        refine congrArg (w.update ·) (funext fun c => ?_)
        rw [Function.comp_apply, addText_addText, String.ofList_append]
      rw [List.map_cons, List.map_cons, List.flatten_cons, hboth, List.foldlM_cons]
      refine Quiet.bind ?_ (ih (w.update (·.addText (.ofList p.1))) (by rw [Walk.bindings_update, hw])
        (by rw [Walk.length_update]; exact hroom))
      exact quiet_pure _

/-- a printed text -/
theorem reads_text (bs : Bindings) (height : Nat) {s : String} (hs : isText s = true) :
    Reads FollowsText bs height (s.toList.flatMap escapeText) (·.addText s) := by
  obtain ⟨ts, hts, hlexes⟩ := lexes_text (List.all_eq_true.1 hs)
  obtain ⟨hbalanced, hchanges⟩ := changes_text bs height hts
  rw [String.ofList_toList] at hchanges
  refine ⟨fun hmem => ?_, ts, hlexes, hbalanced, hchanges⟩
  obtain ⟨c, -, hc⟩ := List.mem_flatMap.1 hmem
  exact (escape_escapeText c).notMem (Or.inr rfl) rfl hc

/-- the indentation of an element -/
theorem reads_indentation (bs : Bindings) (height : Nat) (pretty : Bool) (depth : Nat) :
    Reads FollowsText bs height (indentation pretty depth).toList (·.addText (indentation pretty depth)) := by
  have hblank : ∀ c ∈ (indentation pretty depth).toList, c = '\n' ∨ c = ' ' := by
    intro c hc
    unfold indentation at hc
    split at hc
    · rw [String.toList_append, List.mem_append] at hc
      rcases hc with hc | hc
      · exact Or.inl (List.mem_singleton.1 hc)
      · rw [String.toList_ofList] at hc
        exact Or.inr (List.eq_of_mem_replicate hc)
    · simp at hc
  have hescaped : (indentation pretty depth).toList.flatMap escapeText = (indentation pretty depth).toList :=
    flatMap_escape_of_plain escape_escapeText fun c hc => by rcases hblank c hc with rfl | rfl <;> decide
  have hchars : isText (indentation pretty depth) = true :=
    List.all_eq_true.2 fun c hc => by rcases hblank c hc with rfl | rfl <;> decide
  have htext := reads_text bs height hchars
  rw [hescaped] at htext
  exact htext

end Rules

/-! ## Printed elements -/

/-- tokens are one element, which may be the root of a document -/
def IsRoot (ts : List Token) : Prop :=
  ∀ us, isDocument 0 false (ts ++ us) = isDocument 0 true us

/-- characters are read as an element, ahead of anything -/
structure ReadsElement (bs : Bindings) (height : Nat) (cs : List Char) (q : Qualified) : Prop where
  unified : '\r' ∉ cs
  tokens : ∃ ts, (∀ rest us, Lexes rest us → Lexes (cs ++ rest) (ts ++ us)) ∧ Balanced ts ∧ IsRoot ts ∧
    Changes bs height ts (·.addChild q)

theorem ReadsElement.reads {bs : Bindings} {height : Nat} {cs : List Char} {q : Qualified} (h : ReadsElement bs height cs q) :
    Reads (fun _ => True) bs height cs (·.addChild q) := by
  obtain ⟨hunified, ts, hlexes, hbalanced, -, hchanges⟩ := h
  exact ⟨hunified, ts, fun rest us _ => hlexes rest us, hbalanced, hchanges⟩

theorem return_notMem_name {name : String} (h : isColonName name.toList = true) : '\r' ∉ name.toList := by
  obtain ⟨c, cs, hname, hc, hcs⟩ := isColonName_iff.1 h
  rw [hname, List.mem_cons]
  rintro (rfl | hmem)
  · exact absurd hc (by decide)
  · exact absurd (hcs _ hmem) (by decide)

theorem return_notMem_tagStart {tag : String} {attributes : List (String × String)} (h : PrintableTag tag attributes) :
    '\r' ∉ tagStart tag attributes := by
  intro hmem
  rw [tagStart, List.mem_cons, List.mem_append, List.mem_flatMap] at hmem
  rcases hmem with hmem | hmem | ⟨a, ha, hmem⟩
  · exact absurd hmem (by decide)
  · exact return_notMem_name h.name hmem
  · rw [toList_attributeText, quotedValue] at hmem
    simp only [List.mem_cons, List.mem_append, List.mem_flatMap, List.not_mem_nil, or_false] at hmem
    rcases hmem with hmem | hmem | hmem | hmem | ⟨c, -, hmem⟩ | hmem
    · exact absurd hmem (by decide)
    · exact return_notMem_name (h.attributes a ha).name hmem
    · exact absurd hmem (by decide)
    · exact absurd hmem (by decide)
    · exact (escape_escapeAttribute c).notMem (Or.inr rfl) rfl hmem
    · exact absurd hmem (by decide)

section Elements

variable {ds bs : Bindings} {as : List (String × String)} {label localName uri : String}

/-- a tag whose name has a prefix that is bound, with attributes and declarations by the rules -/
structure FitTag (ds bs : Bindings) (label localName uri : String) (as : List (String × String)) : Prop where
  isName_label : isName label.toList = true
  isName_local : isName localName.toList = true
  bound : (ds ++ bs).lookup label = some uri
  declares : Declares ds
  attributes : PlainAttributes as

theorem FitTag.printable (h : FitTag ds bs label localName uri as) :
    PrintableTag (joined label localName) (ds.map declaration ++ as) :=
  ⟨isColonName_joined h.isName_label h.isName_local,
    List.forall_mem_append.2 ⟨h.declares.printable, h.attributes.printable⟩⟩

/-- a start tag is read into the head of an element -/
theorem FitTag.quiet_readHead (h : FitTag ds bs label localName uri as) {given : List (String × List Part)}
    (hgiven : List.Forall₂ Spelled (ds.map declaration ++ as) given) (nesting : Nat) :
    Quiet (readHead (.initial false) nesting bs (joined label localName) given)
      ⟨ds ++ bs, (uri, localName), as.map fun a => (("", a.1), a.2)⟩ :=
  Xml.quiet_readHead h.declares h.attributes hgiven h.isName_label h.isName_local h.bound nesting

/-- an element that is closed in its start tag -/
theorem FitTag.readsElement_closed (h : FitTag ds bs label localName uri as) (height : Nat) :
    ReadsElement bs (height + 1) (tagStart (joined label localName) (ds.map declaration ++ as) ++ tagEnd true)
      ⟨uri, localName, as.map fun a => (("", a.1), a.2), "", []⟩ := by
  obtain ⟨given, hgiven, hlexes⟩ := lexes_openTag h.printable
  refine ⟨?_, [.openTag (joined label localName) given true], fun rest us hus => ?_, fun depth seen us => ?_, fun us => rfl,
    fun entity nesting w hw hroom => ?_⟩
  · rw [List.mem_append]
    exact not_or.2 ⟨return_notMem_tagStart h.printable, by decide⟩
  · rw [List.append_assoc]
    exact hlexes true rest us hus
  · rw [List.singleton_append, isDocument]
    · exact fun _ _ he => by cases he
    · exact fun _ he => by cases he
  · rw [List.foldlM_cons]
    refine Quiet.bind ?_ (quiet_pure _)
    have hguard : 0 + w.opened.length < depthLimit := by omega
    have hhead := h.quiet_readHead hgiven nesting
    rw [← hw] at hhead
    exact (quiet_guard hguard).bind (hhead.bind (quiet_pure _))

/-- an element around what is read between its tags -/
theorem FitTag.readsElement_open (h : FitTag ds bs label localName uri as) {height : Nat} {inside : List Char}
    {f : Content → Content} (hinside : Reads FollowsText (ds ++ bs) height inside f) :
    ReadsElement bs (height + 1) (tagStart (joined label localName) (ds.map declaration ++ as) ++
        (tagEnd false ++ (inside ++ '<' :: '/' :: ((joined label localName).toList ++ ['>']))))
      ⟨uri, localName, as.map fun a => (("", a.1), a.2), (f .empty).text, (f .empty).children.reverse⟩ := by
  obtain ⟨given, hgiven, hlexes⟩ := lexes_openTag h.printable
  obtain ⟨hunified, ts, hinsideLexes, hbalanced, hchanges⟩ := hinside
  have hname := isColonName_joined h.isName_label h.isName_local
  refine ⟨?_, .openTag (joined label localName) given false :: (ts ++ [.closeTag (joined label localName)]),
    fun rest us hus => ?_, fun depth seen us => ?_, fun us => ?_, fun entity nesting w hw hroom => ?_⟩
  · simp only [List.mem_append, List.mem_cons, List.not_mem_nil, or_false, not_or]
    exact ⟨return_notMem_tagStart h.printable, by decide, hunified, by decide, by decide, return_notMem_name hname, by decide⟩
  · have hclose := lexes_closeTag hname hus
    have hbetween := hinsideLexes _ _ (show FollowsText ('<' :: '/' :: ((joined label localName).toList ++ '>' :: rest)) from
      rfl) hclose
    have hall := hlexes false _ _ hbetween
    simpa using hall
  · rw [List.cons_append, isDocument, List.append_assoc, hbalanced]
    rfl
  · have hinner := hbalanced 0 true ([.closeTag (joined label localName)] ++ us)
    rw [List.cons_append, List.append_assoc]
    exact hinner
  · let o := OpenElement.start (joined label localName) ⟨ds ++ bs, (uri, localName), as.map fun a => (("", a.1), a.2)⟩
    let w' : Walk := { w with opened := o :: w.opened }
    have hguard : 0 + w.opened.length < depthLimit := by omega
    have hhead := h.quiet_readHead hgiven nesting
    rw [← hw] at hhead
    -- the element is on the stack while what is inside of it is read, and becomes a child once it is closed
    have hopen : Quiet (Walk.step (.initial false) entity nesting 0 w (.openTag (joined label localName) given false)) w' := by
      refine (quiet_guard hguard).bind (hhead.bind ?_)
      rw [hw]
      exact quiet_pure _
    have hclose : Quiet (Walk.step (.initial false) entity nesting 0 (w'.update f) (.closeTag (joined label localName)))
        (w.update (·.addChild ⟨uri, localName, as.map fun a => (("", a.1), a.2), (f .empty).text,
          (f .empty).children.reverse⟩)) :=
      (quiet_guard rfl).bind (quiet_pure _)
    have hroom' : w'.opened.length + height ≤ depthLimit := by
      change w.opened.length + 1 + height ≤ depthLimit
      omega
    rw [List.foldlM_cons]
    refine hopen.bind ?_
    rw [List.foldlM_append]
    refine (hchanges entity nesting w' rfl hroom').bind ?_
    rw [List.foldlM_cons]
    exact hclose.bind (quiet_pure _)

end Elements

/-! ## Elements in elements -/

/-- the content around some elements once they have been read, each after its indentation -/
def Content.addAll (bs : Bindings) (pretty : Bool) (depth : Nat) : List Element → Content → Content
  | [], c => c
  | e :: es, c => Content.addAll bs pretty depth es
    ((c.addText (indentation pretty depth)).addChild (e.qualified bs pretty depth))

theorem children_addAll (bs : Bindings) (pretty : Bool) (depth : Nat) (es : List Element) (c : Content) :
    (c.addAll bs pretty depth es).children.reverse = c.children.reverse ++ Element.qualifiedAll bs pretty depth es := by
  induction es generalizing c with
  | nil => rw [Content.addAll, Element.qualifiedAll, List.append_nil]
  | cons e es ih =>
    have hchildren : ((c.addText (indentation pretty depth)).addChild (e.qualified bs pretty depth)).children =
        e.qualified bs pretty depth :: c.children := by
      unfold Content.addText
      split <;> rfl
    rw [Content.addAll, ih, hchildren, Element.qualifiedAll, List.reverse_cons, List.append_assoc, List.singleton_append]

/-- once there is a child, no text is added -/
theorem text_addAll_of_complete (bs : Bindings) (pretty : Bool) (depth : Nat) (es : List Element) {c : Content}
    (hc : c.complete = true) : (c.addAll bs pretty depth es).text = c.text ∧ (c.addAll bs pretty depth es).complete = true := by
  induction es generalizing c with
  | nil => exact ⟨rfl, hc⟩
  | cons e es ih =>
    rw [Content.addAll]
    have hsame : c.addText (indentation pretty depth) = c := by rw [Content.addText, if_pos hc]
    rw [hsame]
    exact ih (c := c.addChild _) rfl

theorem text_addAll (bs : Bindings) (pretty : Bool) (depth : Nat) (es : List Element) {c : Content}
    (hc : c.complete = false) : (c.addAll bs pretty depth es).text =
      c.text ++ (if es.isEmpty then "" else indentation pretty depth) ∧
    (c.addAll bs pretty depth es).complete = !es.isEmpty := by
  cases es with
  | nil => exact ⟨by rw [Content.addAll, List.isEmpty_nil, if_pos rfl, String.append_empty], hc⟩
  | cons e es =>
    have hadded : c.addText (indentation pretty depth) = { c with text := c.text ++ indentation pretty depth } := by
      rw [Content.addText, if_neg (by rw [hc]; decide)]
    rw [Content.addAll, hadded]
    exact text_addAll_of_complete bs pretty depth es rfl

theorem toList_openTag (e : Element) : (openTag e).toList = tagStart e.tag e.attributes := by
  have hmark : "<".toList = ['<'] := rfl
  rw [openTag, tagStart, String.toList_append, String.toList_append, hmark, String.toList_join, List.flatMap_map]
  rfl

/-- what is printed between the tags of an element -/
def Element.inside (pretty : Bool) (depth : Nat) (text : Option String) (children : List Element) : List Char :=
  let inner := pretty && text.isNone
  (text.getD "").toList.flatMap escapeText ++ ((Element.renderAll inner (depth + 1) children).toList ++
    (indentation inner depth).toList)

theorem toList_render (pretty : Bool) (depth : Nat) (tag : String) (attributes : List (String × String)) (text : Option String)
    (children : List Element) : (Element.render pretty depth ⟨tag, attributes, text, children⟩).toList =
      tagStart tag attributes ++ (if text.isNone && children.isEmpty then tagEnd true
        else tagEnd false ++ (Element.inside pretty depth text children ++ '<' :: '/' :: (tag.toList ++ ['>']))) := by
  have hclosed : "/>".toList = ['/', '>'] := rfl
  have hend : ">".toList = ['>'] := rfl
  have hclose : "</".toList = ['<', '/'] := rfl
  cases text with
  | none =>
    cases children with
    | nil => simp [Element.render, toList_openTag, tagEnd, hclosed]
    | cons c cs => simp [Element.render, toList_openTag, tagEnd, hend, hclose, Element.inside]
  | some s => simp [Element.render, toList_openTag, tagEnd, hend, hclose, Element.inside, escapeWith, indentation]

theorem followsText_render (pretty : Bool) (depth : Nat) (e : Element) (rest : List Char) :
    FollowsText ((e.render pretty depth).toList ++ rest) := by
  obtain ⟨tag, attributes, text, children⟩ := e
  rw [toList_render]
  rfl

theorem followsText_renderAll (depth : Nat) (es : List Element) {rest : List Char} (hrest : FollowsText rest) :
    FollowsText ((Element.renderAll false depth es).toList ++ rest) := by
  cases es with
  | nil => exact hrest
  | cons e es =>
    rw [Element.renderAll, String.toList_append, String.toList_append, List.append_assoc, List.append_assoc]
    exact followsText_render false depth e _

/-- what the content of an element becomes between its tags -/
def Content.addInside (bs : Bindings) (pretty : Bool) (depth : Nat) (text : Option String) (children : List Element)
    (c : Content) : Content :=
  let inner := pretty && text.isNone
  ((c.addText (text.getD "")).addAll bs inner (depth + 1) children).addText (indentation inner depth)

theorem addInside_empty (bs : Bindings) (pretty : Bool) (depth : Nat) {text : Option String} {children : List Element}
    (h : (text.isNone && children.isEmpty) = false) :
    (Content.addInside bs pretty depth text children .empty).text = text.getD "" ++
      (if children.isEmpty then "" else indentation (pretty && text.isNone) (depth + 1)) ∧
    (Content.addInside bs pretty depth text children .empty).children.reverse =
      Element.qualifiedAll bs (pretty && text.isNone) (depth + 1) children := by
  have hstart : Content.empty.addText (text.getD "") = ⟨text.getD "", false, []⟩ := by
    simp [Content.addText, Content.empty]
  obtain ⟨htext, hcomplete⟩ :=
    text_addAll bs (pretty && text.isNone) (depth + 1) children (c := ⟨text.getD "", false, []⟩) rfl
  have hchildren := children_addAll bs (pretty && text.isNone) (depth + 1) children ⟨text.getD "", false, []⟩
  -- what is printed before the end tag is only indentation, and adds nothing
  have hlast : Content.addInside bs pretty depth text children .empty =
      Content.addAll bs (pretty && text.isNone) (depth + 1) children ⟨text.getD "", false, []⟩ := by
    unfold Content.addInside
    dsimp only
    rw [hstart]
    cases children with
    | nil =>
      have hsome : text.isNone = false := by simpa using h
      rw [hsome, Bool.and_false]
      exact addText_empty _
    | cons e es => rw [Content.addText, if_pos (by rw [hcomplete]; rfl)]
  rw [hlast]
  exact ⟨htext, hchildren⟩

/-- what stands between the tags of an element is read if its children are -/
theorem reads_inside {bs : Bindings} {text : Option String} {children : List Element}
    (htext : text.all isText = true)
    (hchildren : ∀ pretty depth, Reads (fun _ => True) bs (Element.heightAll children)
      (Element.renderAll pretty depth children).toList (Content.addAll bs pretty depth children))
    (pretty : Bool) (depth : Nat) : Reads FollowsText bs (Element.heightAll children)
      (Element.inside pretty depth text children) (Content.addInside bs pretty depth text children) := by
  -- an element with text is printed on one line, so that its text runs up to the next tag
  have hbefore : Reads (fun rest => text.isNone = true ∨ FollowsText rest) bs (Element.heightAll children)
      ((text.getD "").toList.flatMap escapeText) (·.addText (text.getD "")) := by
    cases text with
    | none =>
      have hsame : (fun c : Content => c.addText "") = id := funext addText_empty
      rw [show (none : Option String).getD "" = "" from rfl, hsame]
      exact reads_nil
    | some s => exact (reads_text bs _ htext).weaken (fun rest h => h.resolve_left (by simp)) (le_refl _)
  have hafter := (hchildren (pretty && text.isNone) (depth + 1)).append
    (reads_indentation bs _ (pretty && text.isNone) depth) fun _ _ => trivial
  refine hbefore.append hafter fun rest hrest => ?_
  cases text with
  | none => exact Or.inl rfl
  | some s =>
    refine Or.inr ?_
    rw [show (pretty && (some s).isNone) = false from Bool.and_false pretty, List.append_assoc]
    exact followsText_renderAll (depth + 1) children hrest

/-- **An element is read if its children are**: its name in its namespace, its attributes, its text and its children. -/
theorem FitTag.readsElement {ds bs : Bindings} {as : List (String × String)} {label localName uri : String}
    (h : FitTag ds bs label localName uri as) {text : Option String} {children : List Element}
    (htext : text.all isText = true)
    (hchildren : ∀ pretty depth, Reads (fun _ => True) (ds ++ bs) (Element.heightAll children)
      (Element.renderAll pretty depth children).toList (Content.addAll (ds ++ bs) pretty depth children))
    (pretty : Bool) (depth : Nat) : ReadsElement bs (Element.heightAll children + 1)
      (Element.render pretty depth ⟨joined label localName, ds.map declaration ++ as, text, children⟩).toList
      (Element.qualified (ds ++ bs) pretty depth ⟨joined label localName, as, text, children⟩) := by
  rw [toList_render, Element.qualified, WrittenName.split_joined h.isName_label]
  dsimp only
  rw [h.bound, Option.getD_some]
  cases hempty : text.isNone && children.isEmpty with
  | true =>
    rw [Bool.and_eq_true, Option.isNone_iff_eq_none, List.isEmpty_iff] at hempty
    obtain ⟨rfl, rfl⟩ := hempty
    exact h.readsElement_closed 0
  | false =>
    have hread := h.readsElement_open (reads_inside htext hchildren pretty depth)
    obtain ⟨htexts, hread'⟩ := addInside_empty (ds ++ bs) pretty depth hempty
    rw [htexts, hread'] at hread
    exact hread

mutual

/-- **A fit element is read as it was printed**, at every depth. -/
theorem Element.Fit.readsElement {bs : Bindings} : ∀ {e : Element}, e.Fit bs → ∀ pretty depth,
    ReadsElement bs e.height (e.render pretty depth).toList (e.qualified bs pretty depth)
  | ⟨tag, attributes, text, children⟩, h, pretty, depth => by
    obtain ⟨hlabel, hlocal, hbound, hattributes, htext, hchildren⟩ := h
    have htag : FitTag [] bs _ _ _ _ := ⟨hlabel, hlocal, hbound, declares_nil, hattributes⟩
    exact htag.readsElement htext (fun pretty depth => Element.Fit.readsAll hchildren pretty depth) pretty depth

/-- fit elements side by side are read in order -/
theorem Element.Fit.readsAll {bs : Bindings} : ∀ {es : List Element}, (∀ e ∈ es, e.Fit bs) → ∀ pretty depth,
    Reads (fun _ => True) bs (Element.heightAll es) (Element.renderAll pretty depth es).toList
      (Content.addAll bs pretty depth es)
  | [], _, _, _ => reads_nil
  | e :: es, h, pretty, depth => by
    obtain ⟨he, hes⟩ := List.forall_mem_cons.1 h
    have hone := (Element.Fit.readsElement he pretty depth).reads
    have hmore := Element.Fit.readsAll hes pretty depth
    have hindented := (reads_indentation bs e.height pretty depth).append hone fun rest _ =>
      followsText_render pretty depth e rest
    have hall := (hindented.weaken (fun _ h => h) (le_max_left _ _)).append
      (hmore.weaken (fun _ h => h) (le_max_right _ _)) fun _ _ => trivial
    rw [Element.renderAll, String.toList_append, String.toList_append]
    exact hall

end

/-! ## Documents -/

theorem unifyLines_eq {cs : List Char} (h : '\r' ∉ cs) : Text.unifyLines cs = cs := by
  induction cs with
  | nil => rfl
  | cons c cs ih =>
    obtain ⟨hc, hcs⟩ := not_or.1 (mt List.mem_cons.2 h)
    rw [Text.unifyLines, ih hcs]
    · rintro cs' rfl -
      exact hc rfl
    · rintro rfl
      exact hc rfl

theorem after?_tag (mark : List Char) {c d : Char} (h : d ≠ c) (cs : List Char) :
    after? ('<' :: d :: mark) ('<' :: c :: cs) = none := by
  have hstarts : ('<' :: d :: mark).isPrefixOf ('<' :: c :: cs) = false := by
    rw [List.isPrefixOf, List.isPrefixOf, beq_eq_false_iff_ne.2 h, Bool.false_and, Bool.and_false]
  rw [after?, if_neg (by rw [hstarts]; decide)]

/-- a start tag is no comment, no processing instruction and no document type declaration -/
theorem head_tag {c : Char} (hc : isColonNameStart c = true) (cs : List Char) :
    takeRemarks ('\n' :: '<' :: c :: cs).length ('\n' :: '<' :: c :: cs) = ([], '<' :: c :: cs) ∧
      takeType ('<' :: c :: cs) = some (⟨false, []⟩, '<' :: c :: cs) := by
  have hmark : '!' ≠ c := (ne_of_start hc (by decide)).symm
  have hquestion : '?' ≠ c := (ne_of_start hc (by decide)).symm
  have hcomment : after? "<!--".toList ('<' :: c :: cs) = none := after?_tag ['-', '-'] hmark cs
  have hinstruction : after? "<?".toList ('<' :: c :: cs) = none := after?_tag [] hquestion cs
  have htype : after? "<!DOCTYPE".toList ('<' :: c :: cs) = none := after?_tag "DOCTYPE".toList hmark cs
  have hskip : skipSpace ('\n' :: '<' :: c :: cs) = '<' :: c :: cs := rfl
  constructor
  · rw [List.length_cons, takeRemarks, hskip, takeRemark?, hcomment, hinstruction]
  · rw [takeType, htype]

/-- the line break after the root is one token outside of it -/
theorem tokens_tail (pretty : Bool) : ∃ us, Lexes (if pretty then ['\n'] else []) us ∧ isDocument 0 true us = true ∧
    ∀ entity nesting (w : Walk), w.opened = [] → w.outside.complete = true →
      Quiet (us.foldlM (Walk.step (.initial false) entity nesting 0) w) w := by
  cases pretty with
  | false => exact ⟨[], lexes_nil, rfl, fun entity nesting w _ _ => quiet_pure w⟩
  | true =>
    refine ⟨[.text (.ofList ['\n']) true], lexes_nil.cons (by decide) fun fuel _ => ?_, rfl,
      fun entity nesting w hopened hcomplete => ?_⟩
    · exact takeToken?_run (List.cons_ne_nil '\n' []) (List.forall_mem_singleton.2 rfl) (List.forall_mem_singleton.2 rfl)
        rfl fuel
    · have hsame : w.update (·.addText (.ofList ['\n'])) = w := by
        obtain ⟨opened, outside⟩ := w
        cases hopened
        rw [Walk.update, Content.addText, if_pos hcomplete]
      have hstep : Quiet (Walk.step (.initial false) entity nesting 0 w (.text (.ofList ['\n']) true)) w := by
        rw [Walk.step, hsame]
        exact quiet_pure w
      rw [List.foldlM_cons]
      exact hstep.bind (quiet_pure w)

theorem quiet_readRoot {cs : List Char} {q : Qualified} {height : Nat} (h : ReadsElement .initial height cs q)
    (hheight : height ≤ depthLimit) {c : Char} {rest : List Char} (hcs : cs = '<' :: c :: rest)
    (hc : isColonNameStart c = true) (pretty : Bool) :
    Quiet (readRoot false ('\n' :: (cs ++ if pretty then ['\n'] else []))) q := by
  obtain ⟨-, ts, hlexes, -, hroot, hchanges⟩ := h
  obtain ⟨us, hus, hdocument, htail⟩ := tokens_tail pretty
  have htokens := (hlexes _ us hus).tokens?
  obtain ⟨hremarks, htype⟩ := head_tag hc (rest ++ if pretty then ['\n'] else [])
  rw [← List.cons_append, ← List.cons_append, ← hcs] at htype
  rw [← List.cons_append, ← List.cons_append, ← hcs] at hremarks
  have hwalk : Quiet (walk (.initial false) (entityContent (.initial false) nestingLimit) nestingLimit 0 (ts ++ us))
      ⟨"", true, [q]⟩ := by
    unfold walk
    rw [List.foldlM_append]
    refine ((hchanges _ nestingLimit Walk.start rfl ?_).bind (htail _ _ _ rfl rfl)).bind (quiet_pure _)
    exact (Nat.zero_add height).symm ▸ hheight
  have hlift : Quiet (liftM (tokens? (cs ++ if pretty then ['\n'] else []))) (ts ++ us) := by
    rw [htokens]
    exact quiet_pure _
  unfold readRoot
  rw [hremarks]
  dsimp only
  rw [htype]
  refine (quiet_pure ()).bind ((quiet_pure _).bind ((quiet_pure _).bind (hlift.bind ?_)))
  refine (quiet_guard (by rw [hroot]; exact hdocument)).bind (hwalk.bind ?_)
  exact quiet_pure _

/-- the declaration that is printed names the encoding in which the rest is read -/
theorem openDocument?_printed {body : List Char} (hbody : '\r' ∉ body) {s : String}
    (hs : s.toList = "<?xml version='1.0' encoding='utf-8'?>\n".toList ++ body) :
    openDocument? s = some (false, '\n' :: body) := by
  have hhead : '\r' ∉ "<?xml version='1.0' encoding='utf-8'?>\n".toList := by decide
  have hunified : Text.unifyLines ("<?xml version='1.0' encoding='utf-8'?>\n".toList ++ body) =
      "<?xml version='1.0' encoding='utf-8'?>\n".toList ++ body :=
    unifyLines_eq (by rw [List.mem_append]; exact not_or.2 ⟨hhead, hbody⟩)
  have hmark : dropMark ("<?xml version='1.0' encoding='utf-8'?>\n".toList ++ body) =
      (false, "<?xml version='1.0' encoding='utf-8'?>\n".toList ++ body) := rfl
  unfold openDocument?
  rw [hs, hmark]
  dsimp only
  rw [hunified]
  rfl

/-- **A printed document is read back**: its root with its attributes, its text and its children, all names in their
namespaces. -/
theorem parse?_render {ds : Bindings} {as : List (String × String)} {label localName uri : String}
    (h : FitTag ds .initial label localName uri as) {text : Option String} {children : List Element}
    (htext : text.all isText = true) (hchildren : ∀ e ∈ children, e.Fit (ds ++ .initial))
    (hheight : Element.heightAll children + 1 ≤ depthLimit) (pretty : Bool) :
    parse? (render pretty ⟨joined label localName, ds.map declaration ++ as, text, children⟩) =
      some (Element.qualified (ds ++ .initial) pretty 0 ⟨joined label localName, as, text, children⟩) := by
  have hread := h.readsElement htext (fun pretty depth => Element.Fit.readsAll hchildren pretty depth) pretty 0
  generalize hroot : (⟨joined label localName, ds.map declaration ++ as, text, children⟩ : Element) = root at hread ⊢
  generalize Element.qualified (ds ++ .initial) pretty 0 ⟨joined label localName, as, text, children⟩ = q at hread ⊢
  obtain ⟨c, rest, hname, hc, -⟩ := isColonName_iff.1 (isColonName_joined h.isName_label h.isName_local)
  have hstart : ∃ rest, (root.render pretty 0).toList = '<' :: c :: rest := by
    rw [← hroot, toList_render, tagStart, hname, List.cons_append, List.cons_append, List.cons_append]
    exact ⟨_, rfl⟩
  obtain ⟨rest, hstart⟩ := hstart
  have htail : (if pretty then "\n" else "").toList = if pretty then ['\n'] else [] := by cases pretty <;> rfl
  have hreturn : '\r' ∉ (root.render pretty 0).toList ++ if pretty then ['\n'] else [] := by
    rw [List.mem_append]
    refine not_or.2 ⟨hread.unified, ?_⟩
    cases pretty <;> decide
  have hchars : (render pretty root).toList = "<?xml version='1.0' encoding='utf-8'?>\n".toList ++
      (root.render pretty 0).toList ++ if pretty then ['\n'] else [] :=
    String.toList_append.trans (congrArg₂ (· ++ ·) String.toList_append htail)
  rw [List.append_assoc] at hchars
  have hopen := openDocument?_printed hreturn hchars
  have hquiet := quiet_readRoot hread hheight hstart hc pretty
  rw [parse?, hopen]
  change (readRoot false _).run? = _
  rw [Reading.run?, hquiet]
  rfl

end YangDesign.Xml
