/-
Types that are registered once are known for good.

`Advances x`: whatever it answers, the part `x` of a translation keeps the names, the registered types and the design that there
are. Every part does. `Settles x`: where `x` has answered, it answers the same in every later state and leaves that state as it
is. The rule for sequences makes it enough to look at a name and at a registered type, so whatever is registered settles, and
nothing that runs in between can undo it (`registration_idempotent`).
-/
import YangDesign.Proofs.Translate.Composition
import YangDesign.Proofs.Translate.Correspondence

namespace YangDesign.Translate

open Design Instance Schema Progress

variable {α β : Type} {tree : Tree} {p q t : Progress}

/-! ## What there is stays -/

/-- whatever it answers, a part of a translation keeps all that there is -/
def Advances (x : Translator α) : Prop :=
  ∀ p : Progress, p.Later (x.run p : Except Failure α × Progress).2

theorem Advances.bind {x : Translator α} {f : α → Translator β} (h : Advances x) (k : ∀ a, Advances (f a)) :
    Advances (x >>= f) := by
  intro p
  rw [run_bind]
  have hx := h p
  rcases hrun : (x.run p : Except Failure α × Progress) with ⟨e | a, t⟩ <;> rw [hrun] at hx
  · exact hx
  · exact hx.trans (k a t)

theorem advances_nameFor (o : Owner) (role : String) : Advances (nameFor o role) := by
  intro p
  have hgrows := p.namer.grows_nameFor o role
  unfold nameFor
  rw [run_get_bind]
  rcases hname : p.namer.nameFor o role with ⟨r, m⟩
  rw [hname] at hgrows
  have hlater : p.Later { p with namer := m } :=
    ⟨hgrows, ModelDocument.grows_refl _, fun _ _ h => h, List.prefix_refl _⟩
  dsimp only
  rw [run_modify_bind]
  cases r with
  | ok n => exact hlater
  | error fault => cases fault <;> exact hlater

theorem advances_note (e : Event) : Advances (note e) := fun _ =>
  ⟨Namer.Grows.refl _, ModelDocument.grows_refl _, fun _ _ h => h, List.prefix_append _ _⟩

theorem advances_register (f : Family) (n : SymbolicName) {build : Translator Definition} (h : Advances build) :
    Advances (register f n build) := by
  intro p
  unfold register obtain
  rw [run_get_bind]
  dsimp only
  split
  · exact Later.refl p
  · rw [run_modify_bind]
    have hrecord : ∀ d : Definition, Advances (do
        modify fun s => HasRegistry.withRegistry ((HasRegistry.registry s).record f n d) s
        return n : Translator SymbolicName) := fun d t => later_insert t f n (some d)
    exact (later_insert p f n none).trans (((advances_note _).bind fun _ => h).bind hrecord _)

theorem advances_emit (d : Definition) : Advances (emit d) := by
  intro p
  unfold emit
  rw [run_get_bind]
  cases happend : p.document.append d with
  | none => exact Later.refl p
  | some doc =>
    rw [run_modify_bind]
    have hdocument : p.Later { p with document := doc } :=
      ⟨Namer.Grows.refl _, ModelDocument.grows_append happend, fun _ _ h => h, List.prefix_refl _⟩
    exact hdocument.trans (advances_note _ _)

theorem advances_nextElement (list : SymbolicName) : Advances (nextElement list) := fun _ =>
  ⟨Namer.Grows.refl _, ModelDocument.grows_refl _, fun _ _ h => h, List.prefix_refl _⟩

theorem advances : StepRules Advances where
  pure _ p := Later.refl p
  bind := Advances.bind
  fail _ p := Later.refl p
  note := advances_note
  nameFor := advances_nameFor
  isRegistered _ _ p := Later.refl p
  register := advances_register
  emit := advances_emit

/-! ## What was answered is answered again -/

/-- where `x` has answered, it answers the same in every later state, and leaves that state as it is -/
structure Settles (x : Translator α) : Prop where
  advances : Advances x
  again : ∀ (p q t : Progress) (a : α), (x.run p : Except Failure α × Progress) = (.ok a, q) → q.Later t →
    (x.run t : Except Failure α × Progress) = (.ok a, t)

theorem settles_pure (a : α) : Settles (pure a : Translator α) := by
  refine ⟨advances.pure a, fun p q t b hrun _ => ?_⟩
  cases hrun
  rfl

theorem settles_fail (e : Failure) : Settles (throw e : Translator α) :=
  ⟨advances.fail e, fun _ _ _ _ hrun _ => nomatch hrun⟩

theorem Settles.bind {x : Translator α} {f : α → Translator β} (h : Settles x) (k : ∀ a, Settles (f a)) :
    Settles (x >>= f) := by
  refine ⟨h.advances.bind fun a => (k a).advances, fun p q t b hrun l => ?_⟩
  obtain ⟨a, r, hx, hf⟩ := ok_of_run_bind hrun
  have hlater : r.Later q := by simpa [hf] using (k a).advances r
  rw [run_bind, h.again p r t a hx (hlater.trans l)]
  exact (k a).again r q t b hf l

theorem Settles.map {x : Translator α} (f : α → β) (h : Settles x) : Settles (f <$> x) := by
  rw [map_eq_pure_bind]
  exact h.bind fun _ => settles_pure _

theorem settles_nameFor (o : Owner) (role : String) : Settles (nameFor o role) := by
  refine ⟨advances_nameFor o role, fun p q t n hrun l => ?_⟩
  have hgave : Holds (nameFor o role) p (fun n t => t.namer.Gave o role n ∧ Text.isSymbol n.name = true) fun _ => True :=
    holds_nameFor_ok fun n m hm => ⟨(Namer.gave_of_nameFor hm).1, Namer.isSymbol_of_nameFor hm⟩
  obtain ⟨g, hn⟩ := hgave.ok hrun
  unfold nameFor
  rw [run_get_bind, Namer.nameFor_of_gave (g.mono l.namer) hn]
  rfl

/-- a type is registered once it is answered, whatever has built it -/
theorem holds_register_isRegistered (f : Family) (n : SymbolicName) (build : Translator Definition) :
    Holds (register f n build) p (fun m t => m = n ∧ t.registry.isRegistered f n = true) fun _ => True := by
  refine holds_obtain (fun known => ⟨rfl, known⟩) fun _ => holds_of_forall (fun d t => ⟨rfl, ?_⟩) fun _ => trivial
  exact (isRegistered_insert _ f f n n (some d)).trans (by simp)

theorem settles_register (f : Family) (n : SymbolicName) {build : Translator Definition} (h : Advances build) :
    Settles (register f n build) := by
  refine ⟨advances_register f n h, fun p q t m hrun l => ?_⟩
  obtain ⟨rfl, hknown⟩ := (holds_register_isRegistered f n build).ok hrun
  unfold register obtain
  rw [run_get_bind]
  dsimp only
  split
  · rfl
  · exact absurd (l.registered f m hknown) ‹_›

/-! ## Registered types -/

theorem settles_primitive (k : Kind) (path : List String) :
    Settles (liftM (primitiveType k path) : Translator SymbolicName) := by
  cases k with
  | builtIn b => exact settles_pure _
  | unknown name => exact settles_fail _

theorem settles_dataTypeUnder (t : TypeDef) {base : Translator SymbolicName} (h : Advances base) :
    Settles (dataTypeUnder t base) := by
  unfold dataTypeUnder
  exact (settles_nameFor _ _).bind fun n => settles_register _ n (h.bind fun _ => advances.emitted _)

theorem settles_registerDataType (t : TypeDef) : Settles (registerDataType t) := by
  obtain ⟨name, path, kind, base, enums, description⟩ := t
  cases base with
  | none =>
    rw [registerDataType]
    exact settles_dataTypeUnder _ (advances.primitive _ _)
  | some b =>
    rw [registerDataType]
    exact settles_dataTypeUnder _ (advances.baseDataType _ b (advances.registerDataType b))

theorem settles_dataTypeOf (t : TypeDef) : Settles (dataTypeOf t) := by
  unfold dataTypeOf
  split
  · exact settles_primitive _ _
  · exact settles_registerDataType t

theorem settles_translateTypedef (type : Option TypeDef) : Settles (translateTypedef type) := by
  unfold translateTypedef
  cases type with
  | none => exact settles_pure none
  | some t => exact (settles_dataTypeOf t).map _

/-- the type of an identity is registered once it is answered -/
theorem holds_identityTypeNamed (i : Identity) (base : Translator (Option SymbolicName)) (n : SymbolicName) :
    Holds (identityTypeNamed i base n) p (fun m t => m = n ∧ t.registry.isRegistered .identity n = true) fun _ => True := by
  unfold identityTypeNamed isRegistered
  refine Holds.bind (Holds.bind (holds_get (holds_pure ?_)))
  split
  · exact holds_pure ⟨rfl, ‹_›⟩
  · dsimp only
    split
    · exact Holds.bind (holds_throw trivial)
    · exact holds_register_isRegistered _ n _

theorem run_isRegistered (f : Family) (n : SymbolicName) :
    ((isRegistered f n).run p : Except Failure Bool × Progress) = (.ok (p.registry.isRegistered f n), p) := rfl

theorem settles_identityTypeNamed (i : Identity) {base : Translator (Option SymbolicName)} (h : Advances base)
    (n : SymbolicName) : Settles (identityTypeNamed i base n) := by
  refine ⟨advances.identityTypeNamed i h n, fun p q t m hrun l => ?_⟩
  obtain ⟨rfl, hknown⟩ := (holds_identityTypeNamed i base n).ok hrun
  unfold identityTypeNamed
  rw [run_bind, run_isRegistered, l.registered _ m hknown]
  rfl

theorem settles_translateIdentity (tree : Tree) (i : Identity) : Settles (translateIdentity tree i) :=
  (settles_nameFor _ _).bind
    (settles_identityTypeNamed i (advances.baseIdentityType tree i (advances.translateIdentityWithin tree _)))

theorem settles_objectType (o : Head) (name base : SymbolicName) (isAbstract : Bool) {members : Translator (List Member)}
    (h : Advances members) : Settles (register .objectType name do
      let children ← members
      emitObjectType o name base isAbstract children) :=
  settles_register _ name (h.bind fun _ => advances.emitted _)

theorem settles_containerTypeOf (o : Head) {members : Translator (List Member)} (h : Advances members) :
    Settles (containerTypeOf o members) := by
  unfold containerTypeOf
  exact (settles_nameFor _ _).bind fun n => settles_objectType o n _ _ h

theorem settles_listTypesOf (o : Head) {members : Translator (List Member)} (h : Advances members) :
    Settles (listTypesOf o members) := by
  unfold listTypesOf
  refine (settles_nameFor _ _).bind fun list => (settles_register _ _ (advances.emitted _)).bind fun _ => ?_
  refine (settles_nameFor _ _).bind fun element => (settles_objectType o element _ _ h).bind fun _ => ?_
  exact (settles_nameFor _ _).bind fun reference => (settles_register _ _ (advances.emitted _)).bind fun _ => settles_pure _

theorem settles_variableType (o : Head) (type : Option TypeDef) (role : String) (rank : ValueRank) :
    Settles (variableType o type role rank) := by
  unfold variableType
  exact (settles_nameFor _ _).bind fun n =>
    settles_register _ n ((advances.leafDataType o type).bind fun _ => advances.emitted _)

theorem settles_choiceTypeOf (o : Head) {cases : SymbolicName → Translator Unit} (h : ∀ n, Advances (cases n)) :
    Settles (choiceTypeOf o cases) := by
  unfold choiceTypeOf
  exact (settles_nameFor _ _).bind fun n =>
    settles_register _ n ((advances.emitted _).bind fun _ => (h n).bind fun _ => advances.pure _)

/-! ## Calls -/

/-- a node or a type, to be registered -/
inductive Registration where
  | identity (i : Identity)
  | typedef (type : Option TypeDef)
  | container (n : Node)
  | list (n : Node)
  | leaf (h : Head) (type : Option TypeDef)
  | leafList (h : Head) (type : Option TypeDef)
  | choice (n : Node)
  | dataType (t : TypeDef)

/-- the names that a registration comes to -/
def Registration.ask (tree : Tree) : Registration → Translator (List SymbolicName)
  | .identity i => ([·]) <$> translateIdentity tree i
  | .typedef type => Option.toList <$> translateTypedef type
  | .container n => ([·]) <$> containerType n
  | .list n => (fun types => [types.list, types.element, types.reference]) <$> listTypes n
  | .leaf h type => ([·]) <$> leafType h type
  | .leafList h type => ([·]) <$> leafListType h type
  | .choice n => ([·]) <$> choiceType n
  | .dataType t => ([·]) <$> dataTypeOf t

/-- a call of a translation: a registration, the type of a case, members whatever the data, the object of a container -/
inductive Call where
  | register (r : Registration)
  | caseType (n : Node) (choice : SymbolicName)
  | members (ns : List Node) (data : List DataNode) (owner : Option Enclosing)
  | object (n : Node) (type : SymbolicName) (data : List DataNode)

/-- what a call does, its answer left aside -/
def Call.make (tree : Tree) : Call → Translator Unit
  | .register r => Functor.discard (r.ask tree)
  | .caseType n choice => Functor.discard (Translate.caseType n choice)
  | .members ns data owner => Functor.discard (membersOf data owner ns)
  | .object n type data => Functor.discard (containerInstance n type data)

/-- a state reached from another by calls that answer -/
inductive AfterCalls (tree : Tree) (p : Progress) : Progress → Prop where
  | refl : AfterCalls tree p p
  | call {q t : Progress} (c : Call) : AfterCalls tree p q →
    ((c.make tree).run q : Except Failure Unit × Progress) = (.ok (), t) → AfterCalls tree p t

/-- every registration settles -/
theorem Registration.settles (tree : Tree) : ∀ r : Registration, Settles (r.ask tree)
  | .identity i => (settles_translateIdentity tree i).map _
  | .typedef type => (settles_translateTypedef type).map _
  | .container n => (settles_containerTypeOf n.head (advances.typeMembers n.children)).map _
  | .list n => (settles_listTypesOf n.head (advances.typeMembers n.children)).map _
  | .leaf h type => (settles_variableType h type _ _).map _
  | .leafList h type => (settles_variableType h type _ _).map _
  | .choice n => (settles_choiceTypeOf n.head fun name => advances.caseTypesOf n.children name).map _
  | .dataType t => (settles_dataTypeOf t).map _

/-- every call advances -/
theorem advances_make (tree : Tree) : ∀ c : Call, Advances (c.make tree)
  | .register r => advances.map _ (r.settles tree).advances
  | .caseType n choice => advances.map _ (advances.caseTypeOf n.head choice (advances.typeMembers n.children))
  | .members ns data _ => advances.map _ (advances.membersOf ns data fun _ => advances_nextElement)
  | .object n type data => advances.map _ (advances.containerInstance advances_nextElement n type data)

/-- what there is in a state is there in the states reached from it -/
theorem AfterCalls.later (h : AfterCalls tree p t) : p.Later t := by
  induction h with
  | refl => exact Later.refl p
  | @call q t c _ hrun ih =>
    have hcall := advances_make tree c q
    rw [hrun] at hcall
    exact ih.trans hcall

/-- **What was registered once answers the same ever after.** After any calls that answer, the registration of the same node or
type gives the same names and changes nothing: neither the design, nor the registered types, the names and prefixes, or the
numbers of elements. -/
theorem registration_idempotent (r : Registration) {names : List SymbolicName}
    (hrun : ((r.ask tree).run p : Except Failure (List SymbolicName) × Progress) = (.ok names, q))
    (hreached : AfterCalls tree q t) :
    ((r.ask tree).run t : Except Failure (List SymbolicName) × Progress) = (.ok names, t) :=
  (r.settles tree).again p q t names hrun hreached.later

/-- the container of the mixed schema -/
def mixedContainer : Node :=
  mixedTree.nodes.get ⟨1, by decide +kernel⟩

/-- the type of the container is asked for again when the two entries of the list have become objects -/
theorem registration_idempotent_mixed :
    let again : Translator (List SymbolicName) := (Registration.container mixedContainer).ask mixedTree
    ∃ q t, (again.run (.start (.new "t" [])) : Except Failure (List SymbolicName) × Progress) =
        (.ok [⟨"t", "ns0__cContainerType"⟩], q) ∧ AfterCalls mixedTree q t ∧
      t.document.definitions.size = q.document.definitions.size + 2 ∧
      (again.run t : Except Failure (List SymbolicName) × Progress) = (.ok [⟨"t", "ns0__cContainerType"⟩], t) := by
  intro again
  let fill : Call := .members mixedContainer.children
    [.list ⟨"u", "l"⟩ [[.leaf ⟨"u", "k"⟩ (.text "1")], [.leaf ⟨"u", "k"⟩ (.text "2")]]] (some ⟨⟨"t", "o"⟩, "c"⟩)
  have hcalls : (match (again.run (.start (.new "t" [])) : Except Failure (List SymbolicName) × Progress) with
    | (.ok names, q) => names == [⟨"t", "ns0__cContainerType"⟩] &&
        match ((fill.make mixedTree).run q : Except Failure Unit × Progress) with
        | (.ok (), t) => t.document.definitions.size == q.document.definitions.size + 2
        | _ => false
    | _ => false) = true := by decide +kernel
  rcases hq : (again.run (.start (.new "t" [])) : Except Failure (List SymbolicName) × Progress) with ⟨e | names, q⟩ <;>
    simp only [hq, Bool.false_eq_true] at hcalls
  rcases ht : ((fill.make mixedTree).run q : Except Failure Unit × Progress) with ⟨e | ⟨⟩, t⟩ <;>
    simp only [ht, Bool.and_false, Bool.false_eq_true, Bool.and_eq_true, beq_iff_eq] at hcalls
  obtain ⟨rfl, hsize⟩ := hcalls
  have hreached : AfterCalls mixedTree q t := .call fill .refl ht
  exact ⟨q, t, rfl, hreached, hsize, registration_idempotent (.container mixedContainer) hq hreached⟩

end YangDesign.Translate
