/-
The parts of a translation make regular names.

Constructs have the characters of identifiers in their names (`HeadText`, `TypeText`), and symbolic names, browse names and
display names are made of these. `Yields uri x Q`: from every state with regular definitions, if the part `x` of a
translation answers, the definitions are still regular, and `Q` holds of the answer. One rule for each step, then one lemma
for each type and each member; the members of children are given.
-/
import YangDesign.Proofs.Design.Regular
import YangDesign.Proofs.Translate.Refusals
import YangDesign.Proofs.Xml.Heads

namespace YangDesign.Translate

open Design Instance Schema

/-! ## Characters -/

/-- what is decided of the characters of identifiers one by one -/
theorem of_isNamePart {P : Char → Prop} (h : ∀ n < 128, Text.isNamePart (Char.ofNat n) = true → P (Char.ofNat n)) {c : Char}
    (hc : Text.isNamePart c = true) : P c := by
  have hlt : c.toNat < 128 := by
    simp only [Text.isNamePart, Bool.or_eq_true, beq_iff_eq] at hc
    rcases hc with ((hc | rfl) | rfl) | rfl
    · exact isAlphanum_lt hc
    all_goals decide
  have hchar := h c.toNat hlt
  rw [Char.ofNat_toNat] at hchar
  exact hchar hc

theorem isPrintable_of_isNameText {s : String} (h : IsNameText s) : IsPrintable s := fun c hc =>
  of_isNamePart (P := fun c => 32 ≤ c.toNat ∧ c.toNat < 127) (by decide +kernel) (h c hc)

theorem isPrintable_toString (i : Int) : IsPrintable (toString i) := by
  have hnat : ∀ n : Nat, IsPrintable (toString n) := fun n => isPrintable_of_isNameText (isNameText_toString n)
  cases i with
  | ofNat n => exact hnat n
  | negSucc n => exact isPrintable_append (s := "-") (isPrintable_of_all (by decide)) (hnat (n + 1))

theorem isPrintable_capitalize {s : String} (h : IsPrintable s) : IsPrintable (Text.capitalize s) := by
  have hupper : ∀ n < 127, 32 ≤ n →
      ((Text.upper (Char.ofNat n)).all fun d => decide (32 ≤ d.toNat ∧ d.toNat < 127)) = true := by decide +kernel
  unfold Text.capitalize
  split
  · exact isPrintable_empty
  · rename_i c cs hs
    rw [IsPrintable, hs] at h
    obtain ⟨⟨hlow, hhigh⟩, hcs⟩ := List.forall_mem_cons.1 h
    intro d hd
    rw [String.toList_ofList, List.mem_append] at hd
    rcases hd with hd | hd
    · have hc := hupper c.toNat hhigh hlow
      rw [Char.ofNat_toNat] at hc
      exact of_decide_eq_true (List.all_eq_true.1 hc d hd)
    · exact hcs d hd

/-- visible names are printable if what they are made of is -/
theorem isPrintable_visibleNames {name before after : String} {enclosing : Option String} (hname : IsPrintable name)
    (hbefore : IsPrintable before) (hafter : IsPrintable after) (he : ∀ outer, enclosing = some outer → IsPrintable outer) :
    IsPrintable (visibleNames name enclosing before after).1 ∧ IsPrintable (visibleNames name enclosing before after).2 := by
  have hboth := isPrintable_append hname hafter
  have hbrowse : IsPrintable (if (Text.trim before).isEmpty then name ++ after
      else before ++ Text.capitalize (name ++ after)) := by
    split
    · exact hboth
    · exact isPrintable_append hbefore (isPrintable_capitalize hboth)
  unfold visibleNames
  dsimp only
  cases enclosing with
  | none => exact ⟨hbrowse, hbrowse⟩
  | some outer =>
    refine ⟨hbrowse, ?_⟩
    dsimp only
    split
    · exact hbrowse
    · exact isPrintable_append (isPrintable_append (he outer rfl) (isPrintable_of_all (by decide))) hbrowse

/-- visible names outside any object -/
theorem isPrintable_ownNames {name before after : String} (hname : IsPrintable name) (hbefore : IsPrintable before)
    (hafter : IsPrintable after) :
    IsPrintable (visibleNames name none before after).1 ∧ IsPrintable (visibleNames name none before after).2 :=
  isPrintable_visibleNames hname hbefore hafter fun outer ho => by cases ho

/-- names of owners whose paths have the characters of identifiers are names of XML -/
theorem isName_spelling {o : Owner} (h : ∀ part ∈ o.path, IsNameText part) (n : Namer) {role : String}
    (hrole : IsNameText role) : Xml.isName (n.spelling o role).toList = true := by
  have hspell : ∀ n < 128, Text.isNamePart (Char.ofNat n) = true → (spell (Char.ofNat n)).all Xml.isNamePart = true := by
    decide +kernel
  obtain ⟨rest, hrest, hlist⟩ := spelling_of_isNameText h n hrole
  rw [hlist, Xml.isName, Bool.and_eq_true, List.all_eq_true]
  refine ⟨by decide, fun d hd => ?_⟩
  obtain ⟨c, hc, hd⟩ := List.mem_flatMap.1 hd
  have hall := of_isNamePart (P := fun c => (spell c).all Xml.isNamePart = true) hspell (hrest c hc)
  exact List.all_eq_true.1 hall d hd

theorem isName_join {s t : String} (hs : Xml.isName s.toList = true) (ht : Xml.isName t.toList = true) :
    Xml.isName (s ++ "_" ++ t).toList = true := by
  obtain ⟨c, cs, hlist, hc, hcs⟩ := Xml.isName_iff.1 hs
  have hchars : (s ++ "_" ++ t).toList = c :: (cs ++ '_' :: t.toList) := by
    simp [hlist]
  have hinner : ∀ d ∈ '_' :: t.toList, Xml.isNamePart d = true :=
    List.forall_mem_cons.2 ⟨by decide, Xml.isNamePart_of_isName ht⟩
  exact Xml.isName_iff.2 ⟨c, _, hchars, hc, List.forall_mem_append.2 ⟨hcs, hinner⟩⟩

/-! ## Rules -/

variable {α β : Type} {uri : String}

/-- a state with regular definitions, which makes names for a namespace -/
structure Proper (uri : String) (p : Progress) : Prop where
  target : p.namer.target = uri
  definitions : ∀ d ∈ p.document.definitions, Regular uri d.parts

/-- an answer keeps the definitions regular and satisfies `Q` -/
def Yields (uri : String) (x : Translator α) (Q : α → Prop) : Prop :=
  ∀ p, Proper uri p → Holds x p (fun a t => Proper uri t ∧ Q a) fun _ => True

theorem proper_start (uri : String) (namespaces : List Namespace) : Proper uri (.start (.new uri namespaces)) :=
  ⟨rfl, fun d hd => by simp [Progress.start, ModelDocument.new] at hd⟩

theorem Yields.bind {x : Translator α} {f : α → Translator β} {R : α → Prop} {Q : β → Prop} (h : Yields uri x R)
    (k : ∀ a, R a → Yields uri (f a) Q) : Yields uri (x >>= f) Q :=
  fun p hp => Holds.bind ((h p hp).imp fun a t ⟨ht, ha⟩ => k a ha t ht)

theorem Yields.map {x : Translator α} {f : α → β} {R : α → Prop} {Q : β → Prop} (h : Yields uri x R)
    (k : ∀ a, R a → Q (f a)) : Yields uri (f <$> x) Q :=
  fun p hp => Holds.map ((h p hp).imp fun a _ ⟨ht, ha⟩ => ⟨ht, k a ha⟩)

theorem yields_pure {a : α} {Q : α → Prop} (h : Q a) : Yields uri (pure a : Translator α) Q :=
  fun _ hp => holds_pure ⟨hp, h⟩

theorem yields_unsupported {cause : Cause} {path : List String} {Q : α → Prop} :
    Yields uri (unsupported cause path : Translator α) Q :=
  fun _ _ => holds_throw trivial

theorem yields_note (e : Event) : Yields uri (note e) fun _ => True :=
  fun _ hp => holds_modify ⟨⟨hp.target, hp.definitions⟩, trivial⟩

theorem yields_isRegistered (f : Family) (n : SymbolicName) : Yields uri (isRegistered f n) fun _ => True :=
  fun _ hp => Holds.bind (holds_get (holds_pure ⟨hp, trivial⟩))

theorem yields_nextElement (list : SymbolicName) : Yields uri (nextElement list) fun _ => True :=
  fun _ hp => Holds.bind (holds_get (Holds.bind (holds_modify (holds_pure ⟨⟨hp.target, hp.definitions⟩, trivial⟩))))

/-- a name for an owner whose path has the characters of identifiers -/
theorem yields_nameFor {o : Owner} (h : ∀ part ∈ o.path, IsNameText part) {role : String} (hrole : IsNameText role) :
    Yields uri (nameFor o role) (SymbolicName.Home uri) := by
  intro p hp
  refine holds_nameFor_ok fun n m hr => ?_
  obtain ⟨hgave, hafter, -⟩ := Namer.gave_of_nameFor hr
  have htarget : m.target = uri := ((Namer.grows_see p.namer o.namespaceUri).trans hafter).target.trans hp.target
  refine ⟨⟨htarget, hp.definitions⟩, ?_⟩
  rw [hgave.spelled]
  exact ⟨Or.inl htarget, isName_spelling h m hrole⟩

theorem yields_emit {d : Definition} (hd : Regular uri d.parts) : Yields uri (emit d) fun _ => True := by
  intro p hp
  unfold emit
  refine Holds.bind (holds_get ?_)
  cases ha : p.document.append d with
  | none => exact holds_throw trivial
  | some doc =>
    refine Holds.bind (holds_modify (yields_note _ _ ⟨hp.target, fun e he => ?_⟩))
    rw [ModelDocument.definitions_append ha, Array.mem_push] at he
    rcases he with he | rfl
    · exact hp.definitions e he
    · exact hd

/-- an emitted definition is the answer -/
theorem yields_emitted {d : Definition} (hd : Regular uri d.parts) :
    Yields uri (do emit d; return d : Translator Definition) fun _ => True :=
  (yields_emit hd).bind fun _ _ => yields_pure trivial

theorem yields_register {f : Family} {n : SymbolicName} {build : Translator Definition} {Q : SymbolicName → Prop} (hn : Q n)
    (hbuild : Yields uri build fun _ => True) : Yields uri (register f n build) Q := by
  intro p hp
  refine holds_obtain (fun _ => ⟨hp, hn⟩) fun _ => ?_
  have hreserved : Proper uri { p with registry := p.registry.reserve f n } := ⟨hp.target, hp.definitions⟩
  refine Holds.bind ((yields_note (.registering f.name n.name) _ hreserved).imp fun _ t ht => ?_)
  exact (hbuild t ht.1).imp fun _ _ hu => ⟨⟨hu.1.target, hu.1.definitions⟩, hn⟩

theorem yields_mapM {f : α → Translator β} (hf : ∀ a, Yields uri (f a) fun _ => True) (as : List α) :
    Yields uri (as.mapM f) fun _ => True := by
  induction as with
  | nil => exact fun _ hp => holds_mapM_nil ⟨hp, trivial⟩
  | cons a as ih =>
    exact fun p hp => holds_mapM_cons ((hf a p hp).imp fun _ t ht => (ih t ht.1).imp fun _ _ hu => ⟨hu.1, trivial⟩)

theorem yields_forM {f : α → Translator Unit} {as : List α} (hf : ∀ a ∈ as, Yields uri (f a) fun _ => True) :
    Yields uri (as.forM f) fun _ => True := by
  induction as with
  | nil => exact fun _ hp => holds_forM_nil ⟨hp, trivial⟩
  | cons a as ih =>
    obtain ⟨ha, has⟩ := List.forall_mem_cons.1 hf
    exact fun p hp => holds_forM_cons ((ha p hp).imp fun _ t ht => ih has t ht.1)

theorem home_builtInName {name : String} (h : Xml.isName name.toList = true) : (builtInName name).Home uri :=
  ⟨Or.inr rfl, h⟩

theorem regular_plainLabels {n : SymbolicName} (hn : n.Home uri) {name : String} (hname : IsNameText name)
    (description : Option String) : (plainLabels n name description).Regular uri := by
  obtain ⟨hbrowse, hdisplay⟩ := isPrintable_ownNames (isPrintable_of_isNameText hname) isPrintable_empty isPrintable_empty
  exact ⟨hn, hbrowse, hdisplay⟩

/-! ## Data types and types of identities -/

theorem yields_primitive (k : Kind) (path : List String) :
    Yields uri (liftM (primitiveType k path) : Translator SymbolicName) (SymbolicName.Home uri) := by
  refine fun p hp => holds_lift (fun n hn => ⟨hp, ?_⟩) fun _ _ => trivial
  cases k with
  | builtIn b =>
    cases hn
    exact home_builtInName (by cases b <;> decide)
  | unknown name => cases hn

theorem regular_fields (t : TypeDef) : Regular uri ((fieldsOf t).flatMap Field.parts) := by
  intro p hp
  obtain ⟨f, hf, hp⟩ := List.mem_flatMap.1 hp
  have henum : ∃ e, enumField e = f := by
    unfold fieldsOf at hf
    split at hf
    · obtain ⟨e, -, he⟩ := List.mem_map.1 hf
      exact ⟨e, he⟩
    · cases hf
  obtain ⟨e, rfl⟩ := henum
  have hname : Regular uri [.text .fieldName e.name] := regular_singleton (p := .text .fieldName e.name) trivial
  have hidentifier : Regular uri [.text .identifier (toString e.value)] :=
    regular_singleton (p := .text .identifier (toString e.value)) (isPrintable_toString e.value)
  exact hname.append (hidentifier.append (regular_description _)) p hp

theorem yields_dataTypeUnder {t : TypeDef} (hname : IsNameText t.name.localName) (hpath : ∀ part ∈ t.path, IsNameText part)
    {base : Translator SymbolicName} (hbase : Yields uri base (SymbolicName.Home uri)) :
    Yields uri (dataTypeUnder t base) (SymbolicName.Home uri) := by
  unfold dataTypeUnder
  refine (yields_nameFor hpath (isNameText_of_all (by decide))).bind fun n hn => yields_register hn ?_
  refine hbase.bind fun b hb => yields_emitted ?_
  exact regular_definition (regular_plainLabels hn hname _) (regular_name hb) (regular_fields t)

theorem yields_registerDataType (t : TypeDef) (ht : t.PathsOf IsNameText) :
    Yields uri (registerDataType t) (SymbolicName.Home uri) := by
  induction t using TypeDef.base_induct with
  | step t ih =>
    obtain ⟨hname, hpath⟩ := ht t t.self_mem_chain
    obtain ⟨name, path, kind, base, enums, description⟩ := t
    cases base with
    | none =>
      rw [registerDataType]
      exact yields_dataTypeUnder hname hpath (yields_primitive kind path)
    | some b =>
      have hb : b.PathsOf IsNameText := fun u hu => ht u (by rw [TypeDef.chain]; exact List.mem_cons_of_mem _ hu)
      rw [registerDataType]
      refine yields_dataTypeUnder hname hpath ?_
      unfold baseDataType
      split
      · exact yields_pure (home_builtInName (by decide))
      · split
        · exact yields_primitive b.kind path
        · exact ih b rfl hb

theorem yields_dataTypeOf {t : TypeDef} (ht : t.PathsOf IsNameText) : Yields uri (dataTypeOf t) (SymbolicName.Home uri) := by
  unfold dataTypeOf
  split
  · exact yields_primitive t.kind t.path
  · exact yields_registerDataType t ht

/-- the head of a construct: its name and the parts of its path have the characters of identifiers -/
structure HeadText (h : Head) : Prop where
  label : IsNameText h.name.localName
  path : ∀ part ∈ h.path, IsNameText part

theorem HeadText.yields_nameFor {h : Head} (hh : HeadText h) {role : String} (hrole : IsNameText role) :
    Yields uri (nameFor (ownerOf h) role) (SymbolicName.Home uri) :=
  Translate.yields_nameFor hh.path hrole

theorem isNameText_empty : IsNameText "" :=
  isNameText_of_all rfl

theorem HeadText.yields_identityTypeUnder {i : Identity} (hh : HeadText i.head) {base : Translator (Option SymbolicName)}
    (hbase : Yields uri base fun b => ∀ n, b = some n → n.Home uri) :
    Yields uri (identityTypeUnder i base) (SymbolicName.Home uri) := by
  unfold identityTypeUnder
  refine (hh.yields_nameFor isNameText_empty).bind fun n hn => (yields_isRegistered _ _).bind fun known _ => ?_
  have hregister : Yields uri (register .identity n do
      let baseType ← base
      let d : Definition := ⟨plainLabels n i.head.name.localName i.head.description, .objectType baseType false []⟩
      emit d
      return d) (SymbolicName.Home uri) := by
    refine yields_register hn (hbase.bind fun b hb => yields_emitted ?_)
    exact regular_definition (regular_plainLabels hn hh.label _) (regular_nameParts hb) regular_nil
  split
  · exact yields_pure hn
  · dsimp only
    split
    · exact yields_unsupported.bind (R := fun _ => True) fun _ _ => hregister
    · exact hregister

section Identities

variable {tree : Tree} (htop : ∀ i ∈ tree.topIdentities, HeadText i.head)

include htop

theorem yields_baseIdentityType (i : Identity) {next : Identity → Translator SymbolicName}
    (hnext : ∀ j, HeadText j.head → Yields uri (next j) (SymbolicName.Home uri)) :
    Yields uri (baseIdentityType tree i next) fun b => ∀ n, b = some n → n.Home uri := by
  unfold baseIdentityType
  split
  · exact yields_pure fun n hn => by cases hn
  · split
    · exact yields_unsupported
    · rename_i b hb
      refine (hnext b (htop b (Tree.mem_of_identity? hb).1)).map fun n hn m hm => ?_
      cases hm
      exact hn

theorem yields_translateIdentityWithin (steps : Nat) : ∀ i : Identity, HeadText i.head →
    Yields uri (translateIdentityWithin tree steps i) (SymbolicName.Home uri) := by
  induction steps with
  | zero =>
    exact fun i hi => hi.yields_identityTypeUnder (yields_baseIdentityType htop i fun _ _ => yields_unsupported)
  | succ steps ih => exact fun i hi => hi.yields_identityTypeUnder (yields_baseIdentityType htop i ih)

end Identities

/-! ## Types of nodes -/

variable {h : Head}

theorem HeadText.yields_emitObjectType (hh : HeadText h) {name base : SymbolicName} (hn : name.Home uri)
    (hb : base.Home uri) (isAbstract : Bool) {children : List Member} (hc : Regular uri (Member.partsOf children)) :
    Yields uri (emitObjectType h name base isAbstract children) fun _ => True :=
  yields_emitted (regular_definition (regular_plainLabels hn hh.label _) (regular_name hb) hc)

theorem home_baseObjectType : baseObjectType.Home uri :=
  home_builtInName (by decide)

theorem regular_noMembers : Regular uri (Member.partsOf []) := by
  rw [Member.partsOf]
  exact regular_nil

/-- the members that are answered are regular -/
def YieldsMembers (uri : String) (x : Translator (List Member)) : Prop :=
  Yields uri x fun ms => Regular uri (Member.partsOf ms)

theorem HeadText.yields_containerTypeOf (hh : HeadText h) {members : Translator (List Member)}
    (hm : YieldsMembers uri members) : Yields uri (containerTypeOf h members) (SymbolicName.Home uri) := by
  unfold containerTypeOf
  refine (hh.yields_nameFor (isNameText_of_all (by decide))).bind fun n hn => yields_register hn ?_
  exact hm.bind fun ms hms => hh.yields_emitObjectType hn home_baseObjectType false hms

theorem HeadText.yields_listTypesOf (hh : HeadText h) {members : Translator (List Member)} (hm : YieldsMembers uri members) :
    Yields uri (listTypesOf h members) fun ts => ts.list.Home uri ∧ ts.element.Home uri ∧ ts.reference.Home uri := by
  unfold listTypesOf
  refine (hh.yields_nameFor (isNameText_of_all (by decide))).bind fun list hlist => ?_
  refine (yields_register hlist (hh.yields_emitObjectType hlist home_baseObjectType false regular_noMembers)).bind
    fun list hlist => ?_
  refine (hh.yields_nameFor (isNameText_of_all (by decide))).bind fun element helement => ?_
  refine (yields_register helement (hm.bind fun ms hms =>
    hh.yields_emitObjectType helement home_baseObjectType false hms)).bind fun element helement => ?_
  refine (hh.yields_nameFor (isNameText_of_all (by decide))).bind fun reference hreference => ?_
  refine (yields_register hreference (yields_emitted ?_)).bind fun reference hreference =>
    yields_pure ⟨hlist, helement, hreference⟩
  have hcontains : IsPrintable "Contains" := isPrintable_of_all (by decide)
  obtain ⟨hbrowse, hdisplay⟩ := isPrintable_ownNames (isPrintable_of_isNameText hh.label) hcontains isPrintable_empty
  exact regular_definition ⟨hreference, hbrowse, hdisplay⟩ (regular_name (home_builtInName (by decide))) regular_nil

/-- the type of a construct has names with the characters of identifiers -/
def TypeText (type : Option TypeDef) : Prop :=
  ∀ t, type = some t → t.PathsOf IsNameText

theorem yields_leafDataType (h : Head) {type : Option TypeDef} (ht : TypeText type) :
    Yields uri (leafDataType h type) (SymbolicName.Home uri) := by
  unfold leafDataType
  split
  · exact yields_dataTypeOf (ht _ rfl)
  · exact yields_unsupported

theorem HeadText.yields_variableType (hh : HeadText h) {type : Option TypeDef} (ht : TypeText type) {role : String}
    (hrole : IsNameText role) (rank : ValueRank) :
    Yields uri (variableType h type role rank) (SymbolicName.Home uri) := by
  unfold variableType
  refine (hh.yields_nameFor hrole).bind fun n hn => yields_register hn ?_
  refine (yields_leafDataType h ht).bind fun d hd => yields_emitted ?_
  exact regular_definition (regular_plainLabels hn hh.label _)
    ((regular_name (home_builtInName (by decide))).append (regular_name hd)) regular_nil

theorem HeadText.yields_leafType (hh : HeadText h) {type : Option TypeDef} (ht : TypeText type) :
    Yields uri (leafType h type) (SymbolicName.Home uri) :=
  hh.yields_variableType ht (isNameText_of_all (by decide)) _

theorem HeadText.yields_leafListType (hh : HeadText h) {type : Option TypeDef} (ht : TypeText type) :
    Yields uri (leafListType h type) (SymbolicName.Home uri) :=
  hh.yields_variableType ht (isNameText_of_all (by decide)) _

theorem HeadText.yields_choiceTypeOf (hh : HeadText h) {cases : SymbolicName → Translator Unit}
    (hc : ∀ n, n.Home uri → Yields uri (cases n) fun _ => True) :
    Yields uri (choiceTypeOf h cases) (SymbolicName.Home uri) := by
  unfold choiceTypeOf
  refine (hh.yields_nameFor (isNameText_of_all (by decide))).bind fun n hn => yields_register hn ?_
  refine (hh.yields_emitObjectType hn home_baseObjectType true regular_noMembers).bind fun d _ => ?_
  exact (hc n hn).bind fun _ _ => yields_pure trivial

theorem HeadText.yields_caseTypeOf (hh : HeadText h) {choice : SymbolicName} (hc : choice.Home uri)
    {members : Translator (List Member)} (hm : YieldsMembers uri members) :
    Yields uri (caseTypeOf h choice members) (SymbolicName.Home uri) := by
  unfold caseTypeOf
  refine (hh.yields_nameFor (isNameText_of_all (by decide))).bind fun n hn => yields_register hn ?_
  exact hm.bind fun ms hms => hh.yields_emitObjectType hn hc false hms

theorem yields_translateTypedef {type : Option TypeDef} (ht : TypeText type) :
    Yields uri (translateTypedef type) fun _ => True := by
  unfold translateTypedef
  split
  · exact (yields_dataTypeOf (ht _ rfl)).map fun _ _ => trivial
  · exact yields_pure trivial

/-! ## Members -/

/-- an object whose names are regular -/
structure Enclosing.Regular (uri : String) (e : Enclosing) : Prop where
  name : e.name.Home uri
  browse : IsPrintable e.browse

theorem Enclosing.Regular.member {e : Enclosing} (he : e.Regular uri) {n : SymbolicName} (hn : n.Home uri) {browse : String}
    (hb : IsPrintable browse) : (e.member n browse).Regular uri :=
  ⟨⟨hn.bound, isName_join he.name.isName hn.isName⟩, hb⟩

/-- the visible names of a node on its own -/
theorem HeadText.visibleNames (hh : HeadText h) {after : String} (ha : IsPrintable after) :
    IsPrintable (Translate.visibleNames h.name.localName none "" after).1 ∧
      IsPrintable (Translate.visibleNames h.name.localName none "" after).2 :=
  isPrintable_ownNames (isPrintable_of_isNameText hh.label) isPrintable_empty ha

/-- a variable member, with or without a default value -/
theorem HeadText.yields_variableNode (hh : HeadText h) {type : SymbolicName} (ht : type.Home uri) {browse display : String}
    (hbrowse : IsPrintable browse) (hdisplay : IsPrintable display) {default : Option DefaultValue}
    (hd : ∀ d, default = some d → d.dataType.Home uri) (description : Option String) (rank : ValueRank)
    (access : Option AccessLevel) :
    Yields uri (do
      let name ← nameFor (ownerOf h) ""
      return Member.variableNode ⟨name, browse, display, description⟩ (some type) rank access default)
      fun m => Regular uri m.parts :=
  (hh.yields_nameFor isNameText_empty).bind fun _ hn => yields_pure (regular_variableNode ⟨hn, hbrowse, hdisplay⟩ ht hd)

/-- a variable member with a default value, which has the data type of its construct -/
theorem HeadText.yields_valuedNode (hh : HeadText h) {type : Option TypeDef} (ht : TypeText type) {variableType : SymbolicName}
    (hv : variableType.Home uri) {browse display : String} (hbrowse : IsPrintable browse) (hdisplay : IsPrintable display)
    (value : Value) (description : Option String) (rank : ValueRank) (access : Option AccessLevel) :
    Yields uri (do
      let dataType ← leafDataType h type
      let default ← pure (some ⟨dataType, value⟩)
      let name ← nameFor (ownerOf h) ""
      return Member.variableNode ⟨name, browse, display, description⟩ (some variableType) rank access default)
      fun m => Regular uri m.parts := by
  refine (yields_leafDataType h ht).bind fun d hd => ?_
  rw [pure_bind]
  refine hh.yields_variableNode hv hbrowse hdisplay (fun v hv => ?_) _ _ _
  cases hv
  exact hd

theorem HeadText.yields_listMember (hh : HeadText h) (keys : List String) {types : ListTypes} (ht : types.list.Home uri) :
    Yields uri (listMember h keys types) fun m => Regular uri m.parts := by
  have hlist : IsPrintable "List" := isPrintable_of_all (by decide)
  obtain ⟨hbrowse, hdisplay⟩ := hh.visibleNames hlist
  unfold listMember
  refine (hh.yields_nameFor isNameText_empty).bind fun n hn => yields_pure ?_
  exact regular_objectNode ⟨hn, hbrowse, hdisplay⟩ ht regular_noMembers

theorem HeadText.yields_listElements (hh : HeadText h) {types : ListTypes} (he : types.element.Home uri)
    (hr : types.reference.Home uri) {owner : Enclosing} (ho : owner.Regular uri) (entries : List (List DataNode))
    {members : List DataNode → Enclosing → Translator (List Member)}
    (hm : ∀ ds e, e.Regular uri → YieldsMembers uri (members ds e)) :
    Yields uri (listElements h types owner entries members) fun _ => True := by
  unfold listElements
  refine (hh.yields_nameFor isNameText_empty).bind fun list hlist => ?_
  refine (yields_mapM (fun entry => ?_) entries).bind fun ds _ => (yields_note _).bind fun _ _ => yields_pure trivial
  refine (yields_nextElement list).bind fun i _ => ?_
  have hrole : IsNameText ("ElementInstance" ++ toString i) :=
    isNameText_append (isNameText_of_all (by decide)) (isNameText_toString i)
  refine (hh.yields_nameFor hrole).bind fun n hn => ?_
  have hindex : IsPrintable (" " ++ toString i) :=
    isPrintable_append (isPrintable_of_all (by decide)) (isPrintable_of_isNameText (isNameText_toString i))
  obtain ⟨hbrowse, hdisplay⟩ := hh.visibleNames hindex
  refine (hm entry ⟨n, _⟩ ⟨hn, hbrowse⟩).bind fun ms hms => yields_emitted ?_
  refine regular_definition ⟨hn, hbrowse, hdisplay⟩ (regular_name he) (hms.append (regular_references ?_))
  exact List.forall_mem_singleton.2 ⟨hr, hlist.bound, isName_join ho.name.isName hlist.isName⟩

theorem HeadText.yields_leafMember (hh : HeadText h) {type : Option TypeDef} (ht : TypeText type) (data : List DataNode)
    {owner : Option Enclosing} (ho : ∀ e, owner = some e → e.Regular uri) :
    Yields uri (leafMember h type data owner) fun m => Regular uri m.parts := by
  have howner : ∀ outer, owner.map (·.browse) = some outer → IsPrintable outer := by
    rintro outer houter
    obtain ⟨e, he, rfl⟩ := Option.map_eq_some_iff.1 houter
    exact (ho e he).browse
  obtain ⟨hbrowse, hdisplay⟩ := isPrintable_visibleNames (isPrintable_of_isNameText hh.label) isPrintable_empty
    isPrintable_empty howner
  unfold leafMember
  refine (hh.yields_leafType ht).bind fun t htype => ?_
  generalize Translate.visibleNames h.name.localName (owner.map (·.browse)) "" "" = names at hbrowse hdisplay ⊢
  obtain ⟨browse, display⟩ := names
  dsimp only
  split
  · exact hh.yields_valuedNode ht htype hbrowse hdisplay _ _ _ _
  · rw [pure_bind]
    exact hh.yields_variableNode htype hbrowse hdisplay (fun v hv => by cases hv) _ _ _

theorem HeadText.yields_leafListMember (hh : HeadText h) {type : Option TypeDef} (ht : TypeText type) (data : List DataNode)
    (owner : Option Enclosing) : Yields uri (leafListMember h type data owner) fun m => Regular uri m.parts := by
  obtain ⟨hbrowse, hdisplay⟩ := hh.visibleNames isPrintable_empty
  unfold leafListMember
  refine (hh.yields_leafListType ht).bind fun t htype => ?_
  generalize Translate.visibleNames h.name.localName none "" "" = names at hbrowse hdisplay ⊢
  obtain ⟨browse, display⟩ := names
  dsimp only
  split
  · exact hh.yields_valuedNode ht htype hbrowse hdisplay _ _ _ _
  · rw [pure_bind]
    exact hh.yields_variableNode htype hbrowse hdisplay (fun v hv => by cases hv) _ _ _

theorem HeadText.yields_containerMember (hh : HeadText h) {type : SymbolicName} (ht : type.Home uri) (data : List DataNode)
    {owner : Option Enclosing} (ho : ∀ e, owner = some e → e.Regular uri)
    {members : List DataNode → Enclosing → Translator (List Member)}
    (hm : ∀ ds e, e.Regular uri → YieldsMembers uri (members ds e)) :
    Yields uri (containerMember h type data owner members) fun m => Regular uri m.parts := by
  obtain ⟨hbrowse, hdisplay⟩ := hh.visibleNames isPrintable_empty
  unfold containerMember
  refine (hh.yields_nameFor isNameText_empty).bind fun n hn => ?_
  generalize Translate.visibleNames h.name.localName none "" "" = names at hbrowse hdisplay ⊢
  obtain ⟨browse, display⟩ := names
  dsimp only
  split
  · exact (hm _ _ ((ho _ rfl).member hn hbrowse)).bind fun ms hms =>
      yields_pure (regular_objectNode ⟨hn, hbrowse, hdisplay⟩ ht hms)
  · rw [pure_bind]
    exact yields_pure (regular_objectNode ⟨hn, hbrowse, hdisplay⟩ ht regular_noMembers)

theorem HeadText.yields_choiceMember (hh : HeadText h) {type : SymbolicName} (ht : type.Home uri) (cases : List Node)
    (data : List DataNode) (owner : Option Enclosing) :
    Yields uri (choiceMember h type cases data owner) fun m => Regular uri m.parts := by
  obtain ⟨hbrowse, hdisplay⟩ := hh.visibleNames isPrintable_empty
  have hmember : Yields uri (do
      let name ← nameFor (ownerOf h) ""
      return .objectNode ⟨name, (Translate.visibleNames h.name.localName none "" "").1,
        (Translate.visibleNames h.name.localName none "" "").2, describe h.description⟩ (some type) [] [] :
      Translator Member) fun m => Regular uri m.parts :=
    (hh.yields_nameFor isNameText_empty).bind fun n hn =>
      yields_pure (regular_objectNode ⟨hn, hbrowse, hdisplay⟩ ht regular_noMembers)
  unfold choiceMember
  dsimp only
  split
  · exact (yields_note _).bind fun _ _ => hmember
  · exact hmember

end YangDesign.Translate
