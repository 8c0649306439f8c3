/-
The heads of printed start tags.

A step of reading is quiet if it answers and leaves what is known as it is (`Quiet`): it notes nothing and claims no identifier.
A start tag whose name has a declared prefix, whose attributes have plain names of their own, and which declares prefixes only
by the rules, is read quietly into the name and the attributes it was printed from (`quiet_readHead`).
-/
import YangDesign.Proofs.Xml.Lexing

namespace YangDesign.Xml

open Reading

variable {α β : Type}

/-! ## Quiet steps -/

/-- a step of reading that answers and leaves what is known as it is -/
def Quiet (r : Reading α) (a : α) : Prop :=
  ∀ p : Progress, r.run p = some (a, p)

theorem quiet_pure (a : α) : Quiet (pure a) a :=
  fun _ => rfl

theorem Quiet.bind {r : Reading α} {f : α → Reading β} {a : α} {b : β} (hr : Quiet r a) (hf : Quiet (f a) b) :
    Quiet (r >>= f) b := by
  intro p
  change (r.run p).bind (fun x => (f x.1).run x.2) = _
  rw [hr p]
  exact hf p

theorem quiet_guard {c : Prop} [Decidable c] (hc : c) : Quiet (guard c) () := by
  rw [guard, if_pos hc]
  exact quiet_pure ()

theorem quiet_mapM {f : α → Reading β} {as : List α} {bs : List β} (h : List.Forall₂ (fun a b => Quiet (f a) b) as bs) :
    Quiet (as.mapM f) bs := by
  induction h with
  | nil =>
    rw [List.mapM_nil]
    exact quiet_pure []
  | cons hab _ ih =>
    rw [List.mapM_cons]
    exact hab.bind (ih.bind (quiet_pure _))

/-! ## Names -/

theorem isName_iff {s : String} : isName s.toList = true ↔
    ∃ c cs, s.toList = c :: cs ∧ isNameStart c = true ∧ ∀ d ∈ cs, isNamePart d = true := by
  cases h : s.toList with
  | nil => simp [isName]
  | cons c cs => simp [isName, List.all_eq_true]

theorem isNamePart_of_start {c : Char} (h : isNameStart c = true) : isNamePart c = true := by
  unfold isNameStart at h
  rw [isNamePart, h, Bool.true_or]

theorem isNamePart_of_isName {s : String} (h : isName s.toList = true) : ∀ c ∈ s.toList, isNamePart c = true := by
  obtain ⟨c, cs, hs, hc, hcs⟩ := isName_iff.1 h
  rw [hs]
  exact List.forall_mem_cons.2 ⟨isNamePart_of_start hc, hcs⟩

theorem isName_ne_nil {s : String} (h : isName s.toList = true) : s.isEmpty = false := by
  obtain ⟨c, cs, hs, -⟩ := isName_iff.1 h
  rw [Bool.eq_false_iff]
  intro hempty
  rw [String.isEmpty_iff.1 hempty] at hs
  cases hs

/-- a name without a colon holds none -/
theorem ne_colon_of_isName {s : String} (h : isName s.toList = true) : ∀ c ∈ s.toList, c ≠ ':' := by
  rintro c hc rfl
  have := isNamePart_of_isName h ':' hc
  exact absurd this (by decide)

theorem isColonName_of_isName {s : String} (h : isName s.toList = true) : isColonName s.toList = true := by
  obtain ⟨c, cs, hs, hc, hcs⟩ := isName_iff.1 h
  refine isColonName_iff.2 ⟨c, cs, hs, ?_, fun d hd => ?_⟩
  · rw [isColonNameStart, hc]
    rfl
  · rw [isColonNamePart, hcs d hd]
    rfl

/-- a name of two parts -/
def joined (label localName : String) : String :=
  label ++ ":" ++ localName

theorem toList_joined (label localName : String) :
    (joined label localName).toList = label.toList ++ ':' :: localName.toList := by
  have hcolon : ":".toList = [':'] := rfl
  simp [joined, String.toList_append, hcolon]

theorem isColonName_joined {label localName : String} (hl : isName label.toList = true)
    (hn : isName localName.toList = true) : isColonName (joined label localName).toList = true := by
  obtain ⟨c, cs, hs, hc, hcs⟩ := isName_iff.1 hl
  have hlocal := isNamePart_of_isName hn
  have hchars : (joined label localName).toList = c :: (cs ++ ':' :: localName.toList) := by
    rw [toList_joined, hs, List.cons_append]
  refine isColonName_iff.2 ⟨c, _, hchars, ?_, fun d hd => ?_⟩
  · rw [isColonNameStart, hc]
    rfl
  · rw [isColonNamePart]
    rcases List.mem_append.1 hd with hd | hd
    · rw [hcs d hd]
      rfl
    · rcases List.mem_cons.1 hd with rfl | hd
      · decide
      · rw [hlocal d hd]
        rfl

namespace WrittenName

theorem split_joined {label localName : String} (hl : isName label.toList = true) :
    split (joined label localName) = ⟨label, localName⟩ := by
  obtain ⟨htake, hdrop⟩ := span_of_boundary (p := (· != ':')) (l := label.toList) (r := ':' :: localName.toList)
    (fun c hc => by simpa using ne_colon_of_isName hl c hc) rfl
  rw [split, toList_joined, hdrop, htake]
  dsimp only
  rw [String.ofList_toList, String.ofList_toList]

theorem split_of_isName {s : String} (h : isName s.toList = true) : split s = ⟨"", s⟩ := by
  have hdrop : s.toList.dropWhile (· != ':') = [] := by
    rw [List.dropWhile_eq_nil_iff]
    exact fun c hc => by simpa using ne_colon_of_isName h c hc
  rw [split, hdrop]

theorem quiet_read_joined {label localName : String} (hl : isName label.toList = true) (hn : isName localName.toList = true) :
    Quiet (read (joined label localName)) ⟨label, localName⟩ := by
  have htext : text ⟨label, localName⟩ = joined label localName := by
    rw [text, if_neg (by rw [isName_ne_nil hl]; decide)]
    rfl
  unfold read
  rw [split_joined hl, if_pos (by simp [htext, hl, hn])]
  exact quiet_pure _

theorem quiet_read_of_isName {s : String} (h : isName s.toList = true) : Quiet (read s) ⟨"", s⟩ := by
  have htext : text ⟨"", s⟩ = s := by simp [text]
  unfold read
  rw [split_of_isName h, if_pos (by simp [htext, h])]
  exact quiet_pure _

theorem declared?_plain {s : String} (h : s ≠ "xmlns") : declared? ⟨"", s⟩ = none := by
  simp [declared?, h]

end WrittenName

/-! ## Attributes -/

/-- attributes with plain names of their own -/
structure PlainAttributes (as : List (String × String)) : Prop where
  names : ∀ a ∈ as, isName a.1.toList = true ∧ a.1 ≠ "xmlns"
  values : ∀ a ∈ as, isText a.2 = true
  nodup : (as.map Prod.fst).Nodup

/-- declarations of prefixes that follow the rules -/
structure Declares (ds : Bindings) : Prop where
  labels : ∀ d ∈ ds, isName d.1.toList = true ∧ d.1 ≠ "xml" ∧ d.1 ≠ "xmlns"
  uris : ∀ d ∈ ds, d.2 ≠ "" ∧ d.2 ≠ xmlUri ∧ d.2 ≠ xmlnsUri ∧ Uri.isReference d.2 = true
  values : ∀ d ∈ ds, isText d.2 = true
  nodup : (ds.map Prod.fst).Nodup

theorem declares_nil : Declares [] :=
  ⟨by simp, by simp, by simp, List.nodup_nil⟩

/-- the attribute that declares a prefix -/
def declaration (d : String × String) : String × String :=
  (joined "xmlns" d.1, d.2)

theorem Declares.printable {ds : Bindings} (h : Declares ds) : ∀ a ∈ ds.map declaration, Printable a := by
  intro a ha
  obtain ⟨d, hd, rfl⟩ := List.mem_map.1 ha
  exact ⟨isColonName_joined (by decide) (h.labels d hd).1, h.values d hd⟩

theorem PlainAttributes.printable {as : List (String × String)} (h : PlainAttributes as) : ∀ a ∈ as, Printable a :=
  fun a ha => ⟨isColonName_of_isName (h.names a ha).1, h.values a ha⟩

/-- a prefix that is declared by the rules is bound, and nothing is noted -/
theorem Declares.judge {ds : Bindings} (h : Declares ds) {d : String × String} (hd : d ∈ ds) :
    Xml.judge d.1 d.2 = (true, none) := by
  obtain ⟨hname, hxml, hxmlns⟩ := h.labels d hd
  obtain ⟨hempty, hxmlUri, hxmlnsUri, hreference⟩ := h.uris d hd
  have hlabel : d.1 ≠ "" := by
    intro he
    rw [he] at hname
    cases hname
  unfold Xml.judge
  rw [if_neg hxml, if_neg (by simp [hxmlns, hxmlUri, hxmlnsUri]), if_neg hempty, if_neg (by simp [hreference]),
    if_neg (by simp [hlabel])]

theorem quiet_value {parts : List Part} {v : List Char} (h : Spells parts v) (depth : Nat) (element name : String) :
    Quiet (Declared.value (.initial false) depth (Declared.typeOf (.initial false) element name) parts) v := by
  obtain ⟨css, rfl, rfl⟩ := h
  unfold Declared.value
  refine Quiet.bind (a := css) (quiet_mapM ?_) (quiet_pure _)
  rw [List.forall₂_map_left_iff]
  exact List.forall₂_same.2 fun cs _ => quiet_pure cs

/-- a plain attribute is read as it was printed -/
theorem quiet_readGiven {a : String × String} {given : String × List Part} (hname : isName a.1.toList = true)
    (hxmlns : a.1 ≠ "xmlns") (h : Spelled a given) (depth : Nat) (element : String) :
    Quiet (readGiven (.initial false) depth element given) (⟨"", a.1⟩, a.2) := by
  have hread : Quiet (WrittenName.read given.1) ⟨"", a.1⟩ := by
    rw [h.name]
    exact WrittenName.quiet_read_of_isName hname
  unfold readGiven
  refine hread.bind ((quiet_value h.value depth element given.1).bind ?_)
  rw [if_neg (by simp), WrittenName.declared?_plain hxmlns, String.ofList_toList]
  exact (quiet_pure _).bind ((quiet_pure _).bind (quiet_pure _))

/-- a declaration is read as it was printed -/
theorem quiet_readGiven_declaration {ds : Bindings} (hds : Declares ds) {d : String × String} (hd : d ∈ ds)
    {given : String × List Part} (h : Spelled (declaration d) given) (depth : Nat) (element : String) :
    Quiet (readGiven (.initial false) depth element given) (⟨"xmlns", d.1⟩, d.2) := by
  have hread : Quiet (WrittenName.read given.1) ⟨"xmlns", d.1⟩ := by
    rw [h.name]
    exact WrittenName.quiet_read_joined (by decide) (hds.labels d hd).1
  have hvalue : String.ofList (declaration d).2.toList = d.2 := String.ofList_toList
  unfold readGiven
  refine hread.bind ((quiet_value h.value depth element given.1).bind ?_)
  rw [if_neg (by simp), hvalue, WrittenName.declared?, if_pos rfl]
  have hquiet : Quiet (recordIf (Xml.judge d.1 d.2).2) () := by
    rw [hds.judge hd]
    exact fun _ => rfl
  dsimp only
  exact hquiet.bind (quiet_pure _)

theorem quiet_mapM_spelled {f : String × List Part → Reading Given} {out : String × String → Given}
    {as : List (String × String)} {given : List (String × List Part)} (h : List.Forall₂ Spelled as given)
    (hf : ∀ a ∈ as, ∀ g, Spelled a g → Quiet (f g) (out a)) : Quiet (given.mapM f) (as.map out) := by
  refine quiet_mapM ?_
  induction h with
  | nil => exact .nil
  | cons hag _ ih =>
    obtain ⟨ha, has⟩ := List.forall_mem_cons.1 hf
    exact .cons (ha _ hag) (ih has)

/-! ## Start tags -/

theorem hasRepeated_eq_false {ss : List String} (h : ss.Nodup) : hasRepeated ss = false := by
  induction ss with
  | nil => rfl
  | cons s ss ih =>
    obtain ⟨hs, hss⟩ := List.nodup_cons.1 h
    rw [hasRepeated, ih hss, Bool.or_false]
    simpa using hs

/-- an attribute of a start tag with its name in two parts -/
def givenOf (as : List (String × String)) : List Given :=
  as.map fun a => (⟨"", a.1⟩, a.2)

/-- a declaration of a start tag with its name in two parts -/
def givenDeclarations (ds : Bindings) : List Given :=
  ds.map fun d => (⟨"xmlns", d.1⟩, d.2)

/-- attributes that are given stand in no namespace -/
def placedOf (as : List (String × String)) : List Placed :=
  as.map fun a => ⟨⟨"", a.1⟩, ("", a.1), a.2⟩

theorem declared?_givenOf {as : List (String × String)} (has : PlainAttributes as) : ∀ g ∈ givenOf as,
    g.1.declared? = none := by
  intro g hg
  obtain ⟨a, ha, rfl⟩ := List.mem_map.1 hg
  exact WrittenName.declared?_plain (has.names a ha).2

/-- what a given attribute binds -/
def bindingOf? (g : Given) : Option (String × String) :=
  g.1.declared?.bind fun label => if (judge label g.2).1 then some (label, g.2) else none

theorem bindingOf?_givenDeclarations {ds : Bindings} (hds : Declares ds) :
    (givenDeclarations ds).filterMap bindingOf? = ds := by
  rw [givenDeclarations, List.filterMap_map]
  refine (List.filterMap_congr fun d hd => ?_).trans List.filterMap_some
  change (if (judge d.1 d.2).1 then some (d.1, d.2) else none) = some d
  rw [hds.judge hd]
  rfl

theorem bindingOf?_givenOf {as : List (String × String)} (has : PlainAttributes as) :
    (givenOf as).filterMap bindingOf? = [] := by
  refine List.filterMap_eq_nil_iff.2 fun g hg => ?_
  rw [bindingOf?, declared?_givenOf has g hg]
  rfl

/-- what a start tag binds are its declarations -/
theorem quiet_boundBy {ds : Bindings} {as : List (String × String)} (hds : Declares ds) (has : PlainAttributes as) :
    Quiet (boundBy (givenDeclarations ds ++ givenOf as)) ds := by
  have hbound : (givenDeclarations ds ++ givenOf as).filterMap bindingOf? = ds := by
    rw [List.filterMap_append, bindingOf?_givenDeclarations hds, bindingOf?_givenOf has, List.append_nil]
  have hread : ∀ bs : Bindings, bs = ds → Quiet (guard (!hasRepeated (bs.map (·.1))) >>= fun _ => pure bs) ds := by
    rintro bs rfl
    exact (quiet_guard (by rw [hasRepeated_eq_false hds.nodup]; rfl)).bind (quiet_pure bs)
  exact hread _ hbound

theorem quiet_placeGiven {bs : Bindings} {placed : List Placed} {a : String × String}
    (hxmlns : a.1 ≠ "xmlns") (hnew : ∀ b ∈ placed, b.name ≠ ⟨"", a.1⟩ ∧ b.qualified ≠ ("", a.1)) :
    Quiet (placeGiven bs placed (⟨"", a.1⟩, a.2)) (placed ++ placedOf [a]) := by
  have hname : (placed.any (·.name == ⟨"", a.1⟩)) = false := by
    rw [List.any_eq_false]
    exact fun b hb => by simpa using (hnew b hb).1
  have hqualified : (placed.any (·.qualified == ("", a.1))) = false := by
    rw [List.any_eq_false]
    exact fun b hb => by simpa using (hnew b hb).2
  have hkey : Quiet (WrittenName.qualifyAttribute bs ⟨"", a.1⟩) ("", a.1) := by
    rw [WrittenName.qualifyAttribute, if_pos (by rfl)]
    exact quiet_pure _
  have hguard : (!placed.any (·.name == ⟨"", a.1⟩)) = true := by rw [hname]; rfl
  unfold placeGiven
  rw [WrittenName.declared?_plain hxmlns, if_neg (by decide)]
  dsimp only
  refine (quiet_guard hguard).bind (hkey.bind ?_)
  rw [hqualified, if_neg (by decide)]
  exact quiet_pure _

theorem quiet_placeAll {bs : Bindings} {as : List (String × String)} (has : PlainAttributes as) :
    ∀ {before : List (String × String)}, ((before ++ as).map Prod.fst).Nodup →
      Quiet ((givenOf as).foldlM (placeGiven bs) (placedOf before)) (placedOf (before ++ as)) := by
  obtain ⟨hnames, -, -⟩ := has
  induction as with
  | nil =>
    intro before _
    rw [List.append_nil]
    exact quiet_pure _
  | cons a as ih =>
    intro before hnodup
    obtain ⟨hname, hnames⟩ := List.forall_mem_cons.1 hnames
    have hnew : ∀ b ∈ placedOf before, b.name ≠ ⟨"", a.1⟩ ∧ b.qualified ≠ ("", a.1) := by
      intro b hb
      obtain ⟨x, hx, rfl⟩ := List.mem_map.1 hb
      rw [List.map_append, List.nodup_append] at hnodup
      have hne : x.1 ≠ a.1 := hnodup.2.2 _ (List.mem_map.2 ⟨x, hx, rfl⟩) _ (by simp)
      exact ⟨by simpa using hne, by simpa using hne⟩
    have hstep : Quiet (placeGiven bs (placedOf before) (⟨"", a.1⟩, a.2)) (placedOf before ++ placedOf [a]) :=
      quiet_placeGiven hname.2 hnew
    rw [placedOf, placedOf, ← List.map_append] at hstep
    have hnodup' : ((before ++ [a] ++ as).map Prod.fst).Nodup := by simpa using hnodup
    have hrest := ih hnames hnodup'
    rw [List.append_assoc, List.singleton_append] at hrest
    rw [givenOf, List.map_cons, List.foldlM_cons]
    exact hstep.bind hrest

/-- declarations are no attributes -/
theorem quiet_placeDeclarations (bs ds : Bindings) (placed : List Placed) :
    Quiet ((givenDeclarations ds).foldlM (placeGiven bs) placed) placed := by
  induction ds with
  | nil => exact quiet_pure _
  | cons d ds ih =>
    rw [givenDeclarations, List.map_cons, List.foldlM_cons]
    refine Quiet.bind ?_ ih
    exact quiet_pure _

theorem quiet_readIds (element : String) (as : List (String × String)) :
    Quiet (readIds (.initial false) element (placedOf as)) () := by
  unfold readIds
  induction as with
  | nil => exact quiet_pure _
  | cons a as ih =>
    have hstep : Quiet (if (⟨"", a.1⟩ : WrittenName) = ⟨"xml", "id"⟩ then do
          if !isName (skipSpace (a.2.toList.reverse.dropWhile isSpace).reverse) then record .error
          claimId a.2
        else if (Declared.initial false).typeOf element (WrittenName.text ⟨"", a.1⟩) = .id then claimId a.2
        else pure ()) () := by
      rw [if_neg (by simp), if_neg (by simp [Declared.typeOf, Declared.rule?, Declared.initial])]
      exact quiet_pure ()
    exact hstep.bind ih

/-- **A printed start tag is read back**: its name in its namespace, its attributes in order, and the prefixes it declares. -/
theorem quiet_readHead {ds bs : Bindings} {as : List (String × String)} (hds : Declares ds) (has : PlainAttributes as)
    {given : List (String × List Part)} (hgiven : List.Forall₂ Spelled (ds.map declaration ++ as) given)
    {label localName uri : String} (hl : isName label.toList = true) (hn : isName localName.toList = true)
    (hlookup : (ds ++ bs).lookup label = some uri) (depth : Nat) :
    Quiet (readHead (.initial false) depth bs (joined label localName) given)
      ⟨ds ++ bs, (uri, localName), as.map fun a => (("", a.1), a.2)⟩ := by
  have hread : Quiet (given.mapM (readGiven (.initial false) depth (joined label localName)))
      (givenDeclarations ds ++ givenOf as) := by
    have hparts : (ds.map declaration ++ as).map (fun a => (WrittenName.split a.1, a.2)) =
        givenDeclarations ds ++ givenOf as := by
      rw [List.map_append, List.map_map, givenDeclarations, givenOf]
      refine congrArg₂ (· ++ ·) (List.map_congr_left fun d _ => ?_) (List.map_congr_left fun a ha => ?_)
      · exact congrArg (·, d.2) (WrittenName.split_joined (by decide))
      · rw [WrittenName.split_of_isName (has.names a ha).1]
    rw [← hparts]
    refine quiet_mapM_spelled hgiven fun a ha g hg => ?_
    rcases List.mem_append.1 ha with ha | ha
    · obtain ⟨d, hd, rfl⟩ := List.mem_map.1 ha
      rw [declaration, WrittenName.split_joined (by decide)]
      exact quiet_readGiven_declaration hds hd hg depth _
    · rw [WrittenName.split_of_isName (has.names a ha).1]
      exact quiet_readGiven (has.names a ha).1 (has.names a ha).2 hg depth _
  have hplaced : Quiet ((givenDeclarations ds ++ givenOf as).foldlM (placeGiven (ds ++ bs)) []) (placedOf as) := by
    have hplain : Quiet ((givenOf as).foldlM (placeGiven (ds ++ bs)) (placedOf [])) (placedOf ([] ++ as)) :=
      quiet_placeAll has has.nodup
    rw [List.foldlM_append]
    exact (quiet_placeDeclarations (ds ++ bs) ds []).bind hplain
  have hkey : Quiet (WrittenName.qualify (ds ++ bs) ⟨label, localName⟩) (uri, localName) := by
    rw [WrittenName.qualify]
    dsimp only
    rw [hlookup]
    exact quiet_pure _
  have hbindings : ds ++ boundByDefault ds [] ++ bs = ds ++ bs := by
    rw [boundByDefault, List.filterMap_nil, List.append_nil]
  have hattributes : (placedOf as).map (fun a => (a.qualified, a.value)) = as.map fun a => (("", a.1), a.2) := by
    rw [placedOf, List.map_map]
    rfl
  unfold readHead
  refine (WrittenName.quiet_read_joined hl hn).bind (hread.bind ((quiet_boundBy hds has).bind ?_))
  dsimp only
  rw [show (Declared.initial false).defaults (joined label localName) = [] from rfl, List.map_nil, hbindings, ← hattributes]
  exact hplaced.bind ((quiet_pure _).bind (hkey.bind ((quiet_readIds _ as).bind (quiet_pure _))))

end YangDesign.Xml
