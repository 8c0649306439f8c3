/-
What is checked when a design is written.

A written design is made of parts: names, texts and default values, each of which may be refused (`Part.check`).
`ModelDocument.parts` lists them in the order in which they are written, at every depth. Writing is checking: `Checks doc x ps`
says that the written form `x` answers if the parts `ps` pass, and else has the fault of the first that does not. There is one
rule for each way in which written forms are put together. `element_checks` is the result for whole designs; from it,
`element_isOk_iff` says which designs can be written, and `fault_of_element` what a design is refused for.
-/
import YangDesign.Design.Markup
import YangDesign.Proofs.Answers

namespace YangDesign.Design

/-! ## Parts -/

/-- what a text is written as -/
inductive Slot where
  | browseName
  | displayName
  | description
  | fieldName
  | identifier
  | ofNamespace
  deriving DecidableEq, Repr

/-- a part of a design that is checked when it is written; a name is written as an attribute or element of some key -/
inductive Part where
  | name (key : String) (n : SymbolicName)
  | text (slot : Slot) (s : String)
  | value (d : DefaultValue)
  deriving Repr

/-- the check of a part -/
def Part.check (doc : ModelDocument) : Part → Written Unit
  | .name _ n => do
    let text ← doc.nameText n
    (checkText text).map fun _ => ()
  | .text _ s => (checkText s).map fun _ => ()
  | .value d => (defaultElement d).map fun _ => ()

/-- a name that may be absent -/
def nameParts (key : String) (n : Option SymbolicName) : List Part :=
  (n.map (.name key)).toList

/-- a text that may be absent -/
def textParts (slot : Slot) (s : Option String) : List Part :=
  (s.map (.text slot)).toList

/-- the visible names and the description of a node -/
def Labels.parts (l : Labels) : List Part :=
  [.text .browseName l.browse] ++ ([.text .displayName l.display] ++ textParts .description l.description)

/-- the names of a reference between nodes -/
def Reference.parts (r : Reference) : List Part :=
  [.name "ReferenceType" r.type, .name "TargetId" r.target]

/-- the texts of a field -/
def Field.parts (f : Field) : List Part :=
  [.text .fieldName f.name] ++ (textParts .identifier (f.identifier.map toString) ++ textParts .description f.description)

mutual

/-- the parts of a member and of all members below it -/
def Member.parts : Member → List Part
  | .variableNode labels type _ _ default =>
    [.name "SymbolicName" labels.symbolic] ++ (nameParts "TypeDefinition" type ++ (labels.parts ++
      (default.map .value).toList))
  | .objectNode labels type references children =>
    [.name "SymbolicName" labels.symbolic] ++ (nameParts "TypeDefinition" type ++ (labels.parts ++
      (Member.partsOf children ++ references.flatMap Reference.parts)))

/-- the parts of some members -/
def Member.partsOf : List Member → List Part
  | [] => []
  | m :: ms => m.parts ++ Member.partsOf ms

end

/-- the names in the attributes of a definition -/
def Content.nameParts : Content → List Part
  | .dataType base _ => Design.nameParts "BaseType" base
  | .objectType base _ _ => Design.nameParts "BaseType" base
  | .variableType base type _ => Design.nameParts "BaseType" base ++ Design.nameParts "DataType" type
  | .referenceType base => Design.nameParts "BaseType" base
  | .object type _ _ => Design.nameParts "TypeDefinition" type

/-- what is written below a definition -/
def Content.innerParts : Content → List Part
  | .dataType _ fields => fields.flatMap Field.parts
  | .objectType _ _ children => Member.partsOf children
  | .object _ references children => Member.partsOf children ++ references.flatMap Reference.parts
  | _ => []

/-- the parts of a definition -/
def Definition.parts (d : Definition) : List Part :=
  [.name "SymbolicName" d.name] ++ (d.content.nameParts ++ (d.labels.parts ++ d.content.innerParts))

/-- the texts of a namespace -/
def Namespace.parts (n : Namespace) : List Part :=
  [some n.name, n.designPrefix, n.internalPrefix, n.xmlNamespace, n.xmlPrefix, n.version, n.publicationDate].flatMap
    (textParts .ofNamespace) ++ [.text .ofNamespace n.uri]

/-- the parts of a design in the order in which they are written -/
def ModelDocument.parts (doc : ModelDocument) : List Part :=
  doc.namespaces.flatMap Namespace.parts ++ doc.definitions.toList.flatMap Definition.parts

/-! ## Rules -/

/-- a written form answers if the parts pass, and else has the fault of the first that does not -/
def Checks {α : Type} (doc : ModelDocument) (x : Written α) (ps : List Part) : Prop :=
  (x.map fun _ => ()) = ps.forM (Part.check doc)

section Rules

variable {doc : ModelDocument} {α β : Type} {x : Written α} {ps qs : List Part}

theorem checks_pure (a : α) : Checks doc (pure a) [] := rfl

theorem checks_single {p : Part} (h : (x.map fun _ => ()) = p.check doc) : Checks doc x [p] := by
  rw [Checks, h]
  change p.check doc = (p.check doc >>= fun _ => pure ())
  rw [bind_pure]

theorem Checks.bind {f : α → Written β} (h : Checks doc x ps) (hf : ∀ a, Checks doc (f a) qs) :
    Checks doc (x >>= f) (ps ++ qs) := by
  unfold Checks at h hf ⊢
  have happend : (ps ++ qs).forM (Part.check doc) = (ps.forM (Part.check doc) >>= fun _ => qs.forM (Part.check doc)) :=
    List.forM_append
  rw [happend, ← h]
  cases x with
  | error e => rfl
  | ok a => exact hf a

/-- a last step that only puts parts together -/
theorem Checks.finish {f : α → Written β} (h : Checks doc x ps) (hf : ∀ a, Checks doc (f a) []) :
    Checks doc (x >>= f) ps := by
  have hbind := h.bind hf
  rw [List.append_nil] at hbind
  exact hbind

theorem Checks.map {f : α → β} (h : Checks doc x ps) : Checks doc (x.map f) ps := by
  unfold Checks at h ⊢
  rw [← h]
  cases x <;> rfl

theorem checks_mapM {γ : Type} {f : γ → Written α} {parts : γ → List Part} (h : ∀ c, Checks doc (f c) (parts c))
    (cs : List γ) : Checks doc (cs.mapM f) (cs.flatMap parts) := by
  induction cs with
  | nil => exact checks_pure []
  | cons c cs ih =>
    rw [List.mapM_cons, List.flatMap_cons]
    exact (h c).bind fun _ => ih.finish fun _ => checks_pure _

end Rules

/-! ## Written forms -/

variable {doc : ModelDocument}

theorem checks_checkText (slot : Slot) (s : String) : Checks doc (checkText s) [.text slot s] :=
  checks_single rfl

theorem checks_textElement (slot : Slot) (tag s : String) : Checks doc (textElement tag s) [.text slot s] :=
  (checks_checkText slot s).map

theorem checks_textAttribute (slot : Slot) (key s : String) : Checks doc (textAttribute key s) [.text slot s] :=
  (checks_checkText slot s).map

theorem checks_optionalAttribute (slot : Slot) (key : String) (s : Option String) :
    Checks doc (optionalAttribute key s) (textParts slot s) := by
  cases s with
  | some s => exact checks_textAttribute slot key s
  | none => exact checks_pure []

/-- a name that is written and then checked as a text -/
theorem checks_name {α : Type} (key : String) (n : SymbolicName) {write : String → Written α}
    (h : ∀ text, ((write text).map fun _ => ()) = (checkText text).map fun _ => ()) :
    Checks doc (doc.nameText n >>= write) [.name key n] := by
  refine checks_single ?_
  rw [Part.check]
  cases doc.nameText n with
  | error e => rfl
  | ok text => exact h text

theorem checks_nameAttribute (key : String) (n : SymbolicName) : Checks doc (nameAttribute doc key n) [.name key n] :=
  checks_name key n fun text => by
    rw [textAttribute]
    cases checkText text <;> rfl

theorem checks_optionalName (key : String) (n : Option SymbolicName) :
    Checks doc (optionalName doc key n) (nameParts key n) := by
  cases n with
  | some n => exact checks_nameAttribute key n
  | none => exact checks_pure []

/-- an optional description as a list of elements -/
theorem checks_description {α : Type} (description : Option String) {f : List Xml.Element → Written α}
    (hf : ∀ es, Checks doc (f es) []) :
    Checks doc (match description with
      | some d => (textElement (opcTag "Description") d).map ([·]) >>= f
      | none => pure [] >>= f) (textParts .description description) := by
  cases description with
  | some d => exact (checks_textElement .description _ d).map.finish hf
  | none => exact hf []

theorem checks_labelElements (l : Labels) : Checks doc (labelElements l) l.parts := by
  refine (checks_textElement .browseName _ l.browse).bind fun browse => ?_
  refine (checks_checkText .displayName l.display).bind fun display => ?_
  exact checks_description l.description fun es => checks_pure _

theorem checks_referenceElement (r : Reference) : Checks doc (referenceElement doc r) r.parts := by
  have hname : ∀ key n, Checks doc (doc.nameText n >>= textElement (opcTag key)) [.name key n] := fun key n =>
    checks_name key n fun text => by
      rw [textElement]
      cases checkText text <;> rfl
  have h : Checks doc (do
      let type ← doc.nameText r.type >>= textElement (opcTag "ReferenceType")
      let target ← doc.nameText r.target >>= textElement (opcTag "TargetId")
      return (⟨opcTag "Reference", if r.inverse then [("IsInverse", "true")] else [], none, [type, target]⟩ : Xml.Element))
      r.parts :=
    (hname "ReferenceType" r.type).bind fun type => (hname "TargetId" r.target).finish fun target => checks_pure _
  simp only [bind_assoc] at h
  exact h

theorem checks_referenceElements (rs : List Reference) :
    Checks doc (referenceElements doc rs) (rs.flatMap Reference.parts) :=
  (checks_mapM checks_referenceElement rs).map

theorem checks_fieldElement (f : Field) : Checks doc (fieldElement f) f.parts := by
  refine (checks_textAttribute .fieldName _ f.name).bind fun name => ?_
  refine (checks_optionalAttribute .identifier _ _).bind fun identifier => ?_
  exact checks_description f.description fun es => checks_pure _

mutual

/-- the element of a member is checked with those of all members below it -/
theorem checks_memberElement : ∀ m : Member, Checks doc (memberElement doc m) m.parts
  | .variableNode labels type rank access default => by
    rw [memberElement, Member.parts]
    refine (checks_nameAttribute _ _).bind fun name => ?_
    refine (checks_optionalName _ _).bind fun type => ?_
    refine (checks_labelElements labels).bind fun texts => ?_
    cases default with
    | some d => exact (checks_single (p := .value d) rfl).map.finish fun es => checks_pure _
    | none => exact checks_pure _
  | .objectNode labels type references children => by
    rw [memberElement, Member.parts]
    refine (checks_nameAttribute _ _).bind fun name => ?_
    refine (checks_optionalName _ _).bind fun type => ?_
    refine (checks_labelElements labels).bind fun texts => ?_
    refine (checks_memberElements children).bind fun members => ?_
    exact (checks_referenceElements references).finish fun es => checks_pure _

theorem checks_memberElements : ∀ ms : List Member, Checks doc (memberElements doc ms) (Member.partsOf ms)
  | [] => by
    rw [memberElements, Member.partsOf]
    exact checks_pure []
  | m :: ms => by
    rw [memberElements, Member.partsOf]
    exact (checks_memberElement m).bind fun e => (checks_memberElements ms).finish fun es => checks_pure _

end

theorem checks_contentAttributes (c : Content) : Checks doc (contentAttributes doc c) c.nameParts := by
  cases c with
  | dataType base fields => exact checks_optionalName _ base
  | objectType base isAbstract children => exact (checks_optionalName _ base).finish fun as => checks_pure _
  | variableType base dataType rank =>
    exact (checks_optionalName _ base).bind fun as => (checks_optionalName _ dataType).finish fun bs => checks_pure _
  | referenceType base => exact checks_optionalName _ base
  | object type references children => exact checks_optionalName _ type

theorem checks_contentElements (c : Content) : Checks doc (contentElements doc c) c.innerParts := by
  cases c with
  | dataType base fields => exact (checks_mapM checks_fieldElement fields).map
  | objectType base isAbstract children => exact (checks_memberElements children).map
  | variableType base dataType rank => exact checks_pure []
  | referenceType base => exact checks_pure []
  | object type references children =>
    exact (checks_memberElements children).bind fun members =>
      (checks_referenceElements references).finish fun es => checks_pure _

theorem checks_definitionElement (d : Definition) : Checks doc (definitionElement doc d) d.parts := by
  refine (checks_nameAttribute _ _).bind fun name => ?_
  refine (checks_contentAttributes d.content).bind fun attributes => ?_
  refine (checks_labelElements d.labels).bind fun texts => ?_
  exact (checks_contentElements d.content).finish fun elements => checks_pure _

theorem checks_namespaceElement (n : Namespace) : Checks doc (namespaceElement n) n.parts := by
  have hattributes : ∀ pairs : List (String × Option String),
      Checks doc (pairs.mapM fun p => optionalAttribute p.1 p.2) (pairs.flatMap fun p => textParts .ofNamespace p.2) :=
    checks_mapM fun p => checks_optionalAttribute .ofNamespace p.1 p.2
  exact (hattributes _).bind fun as => (checks_checkText .ofNamespace n.uri).finish fun uri => checks_pure _

/-! ## Designs -/

/-- the check of a declaration of the root -/
def checkDeclaration (d : String × String) : Written Unit := do
  checkUri d.2
  checkPrefix d.1

/-- **Writing is checking.** A design is written if its declarations and then all its parts pass, in the order in which they are
written; else it has the fault of the first that does not. -/
theorem element_checks (doc : ModelDocument) : (doc.element.map fun _ => ()) =
    (doc.declarations.forM checkDeclaration >>= fun _ => doc.parts.forM (Part.check doc)) := by
  have hparts : Checks doc (do
      let namespaces ← doc.namespaces.mapM namespaceElement
      let definitions ← doc.definitions.toList.mapM (definitionElement doc)
      let declarations := doc.declarations.map fun d => ("xmlns:" ++ d.1, d.2)
      return (⟨opcTag "ModelDesign", declarations ++ [("TargetNamespace", doc.target)], none,
        ⟨opcTag "Namespaces", [], none, namespaces⟩ :: definitions⟩ : Xml.Element)) doc.parts :=
    (checks_mapM checks_namespaceElement doc.namespaces).bind fun namespaces =>
      (checks_mapM checks_definitionElement doc.definitions.toList).finish fun definitions => checks_pure _
  change ((doc.declarations.forM checkDeclaration >>= fun _ => _).map fun _ => ()) = _
  cases doc.declarations.forM checkDeclaration with
  | error e => rfl
  | ok u => exact hparts

/-- the prefixes of the vocabulary and their namespaces -/
def vocabularyPrefixes : List (String × String) := [
  ("opc", "http://opcfoundation.org/UA/ModelDesign.xsd"), ("ua", "http://opcfoundation.org/UA/"),
  ("uax", "http://opcfoundation.org/UA/2008/02/Types.xsd"), ("xsi", "http://www.w3.org/2001/XMLSchema-instance"),
  ("xsd", "http://www.w3.org/2001/XMLSchema")]

theorem declarations_eq (doc : ModelDocument) :
    doc.declarations = vocabularyPrefixes ++ [(doc.designPrefix, doc.target)] := rfl

/-- the declarations of the vocabulary are in order -/
theorem checkDeclaration_vocabulary : ∀ x ∈ vocabularyPrefixes, checkDeclaration x = .ok () :=
  forM_eq_ok_iff.1 rfl

/-- the fault of a design is that of a declaration or of a part -/
theorem fault_of_element {e : WriteFault} (h : doc.element = .error e) :
    (∃ d ∈ doc.declarations, checkDeclaration d = .error e) ∨ ∃ p ∈ doc.parts, p.check doc = .error e := by
  have hchecks : (doc.declarations.forM checkDeclaration >>= fun _ => doc.parts.forM (Part.check doc)) = .error e := by
    rw [← element_checks, h]
    rfl
  exact (error_of_bind hchecks).imp error_of_forM fun ⟨_, _, hparts⟩ => error_of_forM hparts

/-! ## Faults -/

/-- faults over a text or a value, and not over a name or a declaration -/
def WriteFault.isOfContent : WriteFault → Bool
  | .forbiddenCharacter | .brokenText _ | .oversizedNumber | .emptyTag | .invalidTag _ => true
  | .invalidUri _ | .invalidPrefix _ | .unboundNamespace _ => false

theorem checkText_fault {s : String} {e : WriteFault} (h : checkText s = .error e) : e = .forbiddenCharacter := by
  unfold checkText at h
  split at h <;> cases h
  rfl

theorem checkDeclaration_fault {d : String × String} {e : WriteFault} (h : checkDeclaration d = .error e) :
    e = .forbiddenCharacter ∨ (e = .invalidUri d.2 ∧ Xml.Uri.isReference d.2 = false) ∨
      (e = .invalidPrefix d.1 ∧ Xml.isName d.1.toList = false) := by
  rcases error_of_bind h with huri | ⟨_, -, hprefix⟩
  · rcases error_of_bind huri with htext | ⟨_, -, huri⟩
    · exact Or.inl (checkText_fault htext)
    · cases hreference : Xml.Uri.isReference d.2 with
      | true =>
        rw [if_pos hreference] at huri
        cases huri
      | false =>
        rw [if_neg (by simp [hreference])] at huri
        cases huri
        exact Or.inr (Or.inl ⟨rfl, rfl⟩)
  · rcases error_of_bind hprefix with htext | ⟨_, -, hprefix⟩
    · exact Or.inl (checkText_fault htext)
    · cases hname : Xml.isName d.1.toList with
      | true =>
        rw [if_pos hname] at hprefix
        cases hprefix
      | false =>
        rw [if_neg (by simp [hname])] at hprefix
        cases hprefix
        exact Or.inr (Or.inr ⟨rfl, rfl⟩)

/-- a default value is refused for what it holds -/
theorem defaultElement_fault {d : DefaultValue} {e : WriteFault} (h : defaultElement d = .error e) :
    e.isOfContent = true := by
  have hcheck : ∀ s : String, checkText s = .error e → e.isOfContent = true := by
    intro s hs
    rw [checkText_fault hs]
    rfl
  have htag : ∀ name : String, valueTag name = .error e → e.isOfContent = true := by
    intro name h
    rcases error_of_bind (map_eq_error_iff.1 h) with h | ⟨_, -, h⟩
    · exact hcheck _ h
    · repeat' split at h
      all_goals cases h
      all_goals rfl
  have htext : ∀ v : Value, valueText v = .error e → e.isOfContent = true := by
    intro v h
    rcases error_of_bind h with h | ⟨t, -, h⟩
    · unfold codedText at h
      repeat' split at h
      all_goals cases h
      rfl
    · split at h <;> cases h
      rfl
  have helement : ∀ (name : String) (v : Value), valueElement name v = .error e → e.isOfContent = true := by
    intro name v h
    rcases error_of_bind h with h | ⟨tag, -, h⟩
    · exact htag name h
    · rcases error_of_bind h with h | ⟨text, -, h⟩
      · exact htext v h
      · exact hcheck text (map_eq_error_iff.1 h)
  unfold defaultElement at h
  split at h
  · rcases error_of_bind h with h | ⟨tag, -, h⟩
    · exact htag _ h
    · rcases error_of_bind h with h | ⟨es, -, h⟩
      · obtain ⟨v, -, h⟩ := error_of_mapM h
        exact helement _ v h
      · cases h
  · rcases error_of_bind h with h | ⟨e, -, h⟩
    · exact helement _ _ h
    · cases h

/-- a part is refused for what it holds, or it is a name that cannot be written -/
theorem Part.fault {p : Part} {e : WriteFault} (h : p.check doc = .error e) :
    e.isOfContent = true ∨ ∃ key n, p = .name key n ∧ doc.nameText n = .error e := by
  have hcheck : ∀ s : String, ((checkText s).map fun _ => ()) = .error e → e.isOfContent = true := by
    intro s hs
    rw [checkText_fault (map_eq_error_iff.1 hs)]
    rfl
  cases p with
  | name key n =>
    rcases error_of_bind h with h | ⟨text, -, h⟩
    · exact Or.inr ⟨key, n, rfl, h⟩
    · exact Or.inl (hcheck text h)
  | text slot s => exact Or.inl (hcheck s h)
  | value d => exact Or.inl (defaultElement_fault (map_eq_error_iff.1 h))

end YangDesign.Design
