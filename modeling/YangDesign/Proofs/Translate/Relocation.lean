/-
The namespace of a design is no more than a name for it.

Two translations of a schema with the same data run side by side, for designs in different namespaces. `Relocated ρ p q`: the
state `q` is the state `p` with the namespace of the design carried along `ρ`; journals aside, nothing else differs.
`Moves ρ r x y`: from such states, `x` and `y` answer alike, `y` with what `r` makes of the answer of `x`, or fail alike, and
the states reached are such states again. There is one rule for each step and each way in which steps are put together, and one
lemma for each part of a translation. `translate_relocate` is the result for whole translations, and for the verdict on them.
-/
import YangDesign.Proofs.Audit.Relocation
import YangDesign.Proofs.Translate.Qualified
import YangDesign.Proofs.Translate.Runs

namespace YangDesign.Translate

open Design Instance Schema

variable {α β γ δ : Type} {ρ : String → String}

/-! ## Side by side -/

/-- a failure in other namespaces -/
def Failure.relocate (ρ : String → String) : Failure → Failure
  | .untranslatable cause path => .untranslatable cause path
  | .duplicate n => .duplicate (n.relocate ρ)

/-- a namer for a design in another namespace -/
def Namer.relocate (ρ : String → String) (n : Namer) : Namer :=
  { n with target := ρ n.target }

/-- a state as another one, with the namespace of the design carried along -/
structure Relocated (ρ : String → String) (p q : Progress) : Prop where
  namer : q.namer = p.namer.relocate ρ
  definitions : q.document.definitions.toList = p.document.definitions.toList.map (Definition.relocate ρ)
  names : ∀ n, q.document.contains (n.relocate ρ) = p.document.contains n
  registered : ∀ f n, q.registry.isRegistered f (n.relocate ρ) = p.registry.isRegistered f n
  counters : ∀ n, q.counters.find? (n.relocate ρ) = p.counters.find? n

/-- from a state and its image, `y` does what `x` does, with what `r` makes of the answer -/
def Moves (ρ : String → String) (r : α → β) (x : Translator α) (y : Translator β) : Prop :=
  ∀ p q, Relocated ρ p q →
    (∀ a p', (x.run p : Except Failure α × Progress) = (.ok a, p') →
      ∃ q', (y.run q : Except Failure β × Progress) = (.ok (r a), q') ∧ Relocated ρ p' q') ∧
    ∀ e p', (x.run p : Except Failure α × Progress) = (.error e, p') →
      ∃ q', (y.run q : Except Failure β × Progress) = (.error (e.relocate ρ), q')

/-! ## Rules -/

section Rules

variable {r : α → β} {s : γ → δ}

theorem moves_pure {a : α} {b : β} (h : b = r a) : Moves ρ r (pure a) (pure b) := by
  intro p q hpq
  refine ⟨fun a' p' hrun => ?_, fun e p' hrun => (by cases hrun)⟩
  cases hrun
  exact ⟨q, by rw [h]; rfl, hpq⟩

theorem Moves.bind {x : Translator α} {y : Translator β} {f : α → Translator γ} {g : β → Translator δ} (h : Moves ρ r x y)
    (k : ∀ a, Moves ρ s (f a) (g (r a))) : Moves ρ s (x >>= f) (y >>= g) := by
  intro p q hpq
  obtain ⟨hok, herror⟩ := h p q hpq
  simp only [run_bind]
  rcases hx : (x.run p : Except Failure α × Progress) with ⟨e | a, p'⟩
  · obtain ⟨q', hy⟩ := herror e p' hx
    rw [hy]
    refine ⟨fun a p' hrun => (by cases hrun), fun e' p'' hrun => ?_⟩
    cases hrun
    exact ⟨q', rfl⟩
  · obtain ⟨q', hy, hpq'⟩ := hok a p' hx
    rw [hy]
    exact k a p' q' hpq'

theorem Moves.map {x : Translator α} {y : Translator β} {f : α → γ} {g : β → δ} (h : Moves ρ r x y)
    (k : ∀ a, g (r a) = s (f a)) : Moves ρ s (f <$> x) (g <$> y) := by
  rw [map_eq_pure_bind, map_eq_pure_bind]
  exact h.bind fun a => moves_pure (k a)

theorem moves_throw (e : Failure) : Moves ρ r (throw e) (throw (e.relocate ρ)) := by
  intro p q _
  refine ⟨fun a p' hrun => (by cases hrun), fun e' p' hrun => ?_⟩
  cases hrun
  exact ⟨q, rfl⟩

theorem moves_unsupported {cause : Cause} {path : List String} :
    Moves ρ r (unsupported cause path) (unsupported cause path) :=
  moves_throw (.untranslatable cause path)

theorem moves_get {f : Progress → Translator α} {g : Progress → Translator β}
    (h : ∀ p q, Relocated ρ p q → Moves ρ r (f p) (g q)) : Moves ρ r (get >>= f) (get >>= g) :=
  fun p q hpq => h p q hpq p q hpq

theorem moves_modify {f g : Progress → Progress} (h : ∀ p q, Relocated ρ p q → Relocated ρ (f p) (g q)) :
    Moves ρ id (modify f : Translator Unit) (modify g) := by
  intro p q hpq
  refine ⟨fun a p' hrun => ?_, fun e p' hrun => (by cases hrun)⟩
  cases hrun
  exact ⟨g q, rfl, h p q hpq⟩

theorem moves_note (e e' : Event) : Moves ρ id (note e) (note e') :=
  moves_modify fun _ _ h => ⟨h.namer, h.definitions, h.names, h.registered, h.counters⟩

theorem moves_forM {f g : α → Translator Unit} {as : List α} (h : ∀ a ∈ as, Moves ρ id (f a) (g a)) :
    Moves ρ id (as.forM f) (as.forM g) := by
  induction as with
  | nil => exact moves_pure rfl
  | cons a as ih =>
    obtain ⟨ha, has⟩ := List.forall_mem_cons.1 h
    exact ha.bind fun _ => ih has

theorem moves_mapM {f : γ → Translator α} {g : γ → Translator β} {cs : List γ} (h : ∀ c ∈ cs, Moves ρ r (f c) (g c)) :
    Moves ρ (List.map r) (cs.mapM f) (cs.mapM g) := by
  induction cs with
  | nil => exact moves_pure rfl
  | cons c cs ih =>
    obtain ⟨hc, hcs⟩ := List.forall_mem_cons.1 h
    rw [List.mapM_cons, List.mapM_cons]
    exact hc.bind fun _ => (ih hcs).bind fun _ => moves_pure rfl

end Rules

/-! ## Steps -/

theorem Namer.nameFor_relocate (n : Namer) (o : Owner) (role : String) : (n.relocate ρ).nameFor o role =
    ((n.nameFor o role).1.map (SymbolicName.relocate ρ), (n.nameFor o role).2.relocate ρ) := by
  have hsee : (n.relocate ρ).see o.namespaceUri = (n.see o.namespaceUri).relocate ρ := by
    unfold see
    show (if n.namespaces.contains o.namespaceUri then _ else _) = _
    split <;> rfl
  unfold nameFor prefixFor
  rw [hsee]
  generalize n.see o.namespaceUri = m
  dsimp only [Namer.relocate]
  split
  · rfl
  · split
    · rfl
    · split <;> rfl

theorem moves_nameFor (o : Owner) (role : String) : Moves ρ (SymbolicName.relocate ρ) (nameFor o role) (nameFor o role) := by
  unfold nameFor
  refine moves_get fun p q hpq => ?_
  rw [hpq.namer, Namer.nameFor_relocate]
  have hmodify : ∀ m : Namer, Moves ρ id (modify ({ · with namer := m }) : Translator Unit)
      (modify ({ · with namer := m.relocate ρ })) :=
    fun m => moves_modify fun _ _ h => ⟨rfl, h.definitions, h.names, h.registered, h.counters⟩
  rcases p.namer.nameFor o role with ⟨fault | n, namer⟩
  · refine (hmodify namer).bind fun _ => ?_
    cases fault <;> exact moves_unsupported
  · exact (hmodify namer).bind fun _ => moves_pure rfl

theorem moves_isRegistered (f : Family) (n : SymbolicName) :
    Moves ρ id (isRegistered f n) (isRegistered f (n.relocate ρ)) := by
  unfold isRegistered
  exact moves_get fun p q hpq => moves_pure (hpq.registered f n)

theorem moves_nextElement (hρ : Relocation ρ) (list : SymbolicName) :
    Moves ρ id (nextElement list) (nextElement (list.relocate ρ)) := by
  unfold nextElement
  refine moves_get fun p q hpq => ?_
  rw [hpq.counters list]
  refine Moves.bind (r := id) (moves_modify fun p q h => ?_) fun _ => moves_pure rfl
  refine ⟨h.namer, h.definitions, h.names, h.registered, fun n => ?_⟩
  simp only [Assoc.find?_insert, (SymbolicName.relocate_injective hρ).eq_iff, h.counters n]

theorem Relocated.insert (hρ : Relocation ρ) {p q : Progress} (h : Relocated ρ p q) (f : Family) (n : SymbolicName)
    (d d' : Option Definition) : Relocated ρ { p with registry := ⟨p.registry.entries.insert (f, n) d⟩ }
      { q with registry := ⟨q.registry.entries.insert (f, n.relocate ρ) d'⟩ } := by
  refine ⟨h.namer, h.definitions, h.names, fun f' n' => ?_, h.counters⟩
  simp only [isRegistered_insert, (SymbolicName.relocate_injective hρ).eq_iff, h.registered]

/-- a name is registered in the other namespace if it is registered here -/
theorem moves_register (hρ : Relocation ρ) (f : Family) (n : SymbolicName) {build build' : Translator Definition}
    (h : Moves ρ (Definition.relocate ρ) build build') :
    Moves ρ (SymbolicName.relocate ρ) (register f n build) (register f (n.relocate ρ) build') := by
  unfold register obtain
  refine moves_get fun p q hpq => ?_
  show Moves ρ _ (if p.registry.isRegistered f n then _ else _) (if q.registry.isRegistered f (n.relocate ρ) then _ else _)
  rw [hpq.registered]
  split
  · exact moves_pure rfl
  · have hreserve : ∀ p' q', Relocated ρ p' q' →
        Relocated ρ { p' with registry := p.registry.reserve f n } { q' with registry := q.registry.reserve f (n.relocate ρ) } :=
      fun _ _ h' => ⟨h'.namer, h'.definitions, h'.names, (hpq.insert hρ f n none none).registered, h'.counters⟩
    refine Moves.bind (r := id) (moves_modify hreserve) fun _ => ?_
    refine ((moves_note _ _).bind fun _ => h).bind fun d => ?_
    exact Moves.bind (r := id) (moves_modify fun p' q' h' => h'.insert hρ f n _ _) fun _ => moves_pure rfl

theorem append_eq_none_iff {doc : ModelDocument} {d : Definition} : doc.append d = none ↔ doc.contains d.name = true := by
  rw [ModelDocument.append, ite_eq_left_iff, ModelDocument.contains]
  simp

/-- a name is free in the other namespace if it is free here -/
theorem moves_emit (hρ : Relocation ρ) (d : Definition) : Moves ρ id (emit d) (emit (d.relocate ρ)) := by
  unfold emit
  refine moves_get fun p q hpq => ?_
  have hnames : q.document.contains (d.relocate ρ).name = p.document.contains d.name := hpq.names d.name
  cases hp : p.document.append d with
  | none =>
    rw [append_eq_none_iff.2 (hnames.trans (append_eq_none_iff.1 hp))]
    exact moves_throw (.duplicate d.name)
  | some doc =>
    obtain ⟨doc', hq⟩ : ∃ doc', q.document.append (d.relocate ρ) = some doc' :=
      ⟨_, ModelDocument.append_eq_some_iff.2 ⟨hnames.trans (ModelDocument.append_eq_some_iff.1 hp).1, rfl⟩⟩
    rw [hq]
    refine Moves.bind (r := id) (moves_modify fun p' q' h' => ?_) fun _ => moves_note _ _
    refine ⟨h'.namer, ?_, fun n => ?_, h'.registered, h'.counters⟩
    · show doc'.definitions.toList = doc.definitions.toList.map (Definition.relocate ρ)
      rw [ModelDocument.definitions_append hp, ModelDocument.definitions_append hq, Array.toList_push, Array.toList_push,
        hpq.definitions, List.map_append]
      rfl
    · show doc'.contains (n.relocate ρ) = doc.contains n
      simp only [ModelDocument.contains_append hp, ModelDocument.contains_append hq, Definition.name_relocate,
        (SymbolicName.relocate_injective hρ).eq_iff, hpq.names]

theorem Moves.ok {r : α → β} {x : Translator α} {y : Translator β} (h : Moves ρ r x y) {p q p' : Progress} {a : α}
    (hpq : Relocated ρ p q) (hrun : (x.run p : Except Failure α × Progress) = (.ok a, p')) :
    ∃ q', (y.run q : Except Failure β × Progress) = (.ok (r a), q') ∧ Relocated ρ p' q' :=
  (h p q hpq).1 a p' hrun

theorem Moves.error {r : α → β} {x : Translator α} {y : Translator β} (h : Moves ρ r x y) {p q p' : Progress} {e : Failure}
    (hpq : Relocated ρ p q) (hrun : (x.run p : Except Failure α × Progress) = (.error e, p')) :
    ∃ q', (y.run q : Except Failure β × Progress) = (.error (e.relocate ρ), q') :=
  (h p q hpq).2 e p' hrun

-- from here on only the rules open the relation
attribute [irreducible] Moves

/-! ## Types -/

/-- what stands for an object in other namespaces -/
def Enclosing.relocate (ρ : String → String) (e : Enclosing) : Enclosing :=
  { e with name := e.name.relocate ρ }

/-- the types of a list in other namespaces -/
def ListTypes.relocate (ρ : String → String) (t : ListTypes) : ListTypes :=
  ⟨t.list.relocate ρ, t.element.relocate ρ, t.reference.relocate ρ⟩

theorem moves_baseIdentityType (tree : Tree) (i : Identity) {next : Identity → Translator SymbolicName}
    (h : ∀ j, Moves ρ (SymbolicName.relocate ρ) (next j) (next j)) :
    Moves ρ (Option.map (SymbolicName.relocate ρ)) (baseIdentityType tree i next) (baseIdentityType tree i next) := by
  unfold baseIdentityType
  split
  · exact moves_pure rfl
  · split
    · exact moves_unsupported
    · exact (h _).map fun _ => rfl

section Types

variable (hρ : Relocation ρ)

include hρ

/-- a definition emitted and answered -/
theorem moves_emitted {d d' : Definition} (h : d' = d.relocate ρ) : Moves ρ (Definition.relocate ρ)
    (do emit d; return d : Translator Definition) (do emit d'; return d') := by
  rw [h]
  exact (moves_emit hρ d).bind fun _ => moves_pure rfl

theorem moves_primitive (k : Kind) (path : List String) : Moves ρ (SymbolicName.relocate ρ)
    (liftM (primitiveType k path) : Translator SymbolicName) (liftM (primitiveType k path)) := by
  cases k with
  | builtIn b => exact moves_pure (relocate_builtInName hρ _).symm
  | unknown name => exact moves_unsupported

theorem moves_dataTypeUnder (t : TypeDef) {base : Translator SymbolicName} (h : Moves ρ (SymbolicName.relocate ρ) base base) :
    Moves ρ (SymbolicName.relocate ρ) (dataTypeUnder t base) (dataTypeUnder t base) := by
  unfold dataTypeUnder
  exact (moves_nameFor _ _).bind fun n => moves_register hρ _ n (h.bind fun b => moves_emitted hρ rfl)

theorem moves_registerDataType (t : TypeDef) :
    Moves ρ (SymbolicName.relocate ρ) (registerDataType t) (registerDataType t) := by
  induction t using TypeDef.base_induct with
  | step t ih =>
    obtain ⟨name, path, kind, base, enums, description⟩ := t
    cases base with
    | none =>
      rw [registerDataType]
      exact moves_dataTypeUnder hρ _ (moves_primitive hρ _ _)
    | some b =>
      rw [registerDataType]
      refine moves_dataTypeUnder hρ _ ?_
      unfold baseDataType
      split
      · exact moves_pure (relocate_builtInName hρ _).symm
      · split
        · exact moves_primitive hρ _ _
        · exact ih b rfl

theorem moves_dataTypeOf (t : TypeDef) : Moves ρ (SymbolicName.relocate ρ) (dataTypeOf t) (dataTypeOf t) := by
  unfold dataTypeOf
  split
  · exact moves_primitive hρ _ _
  · exact moves_registerDataType hρ t

theorem moves_translateTypedef (type : Option TypeDef) :
    Moves ρ (Option.map (SymbolicName.relocate ρ)) (translateTypedef type) (translateTypedef type) := by
  unfold translateTypedef
  cases type with
  | none => exact moves_pure rfl
  | some t => exact (moves_dataTypeOf hρ t).map fun _ => rfl

theorem moves_leafDataType (o : Head) (type : Option TypeDef) :
    Moves ρ (SymbolicName.relocate ρ) (leafDataType o type) (leafDataType o type) := by
  unfold leafDataType
  cases type with
  | none => exact moves_unsupported
  | some t => exact moves_dataTypeOf hρ t

theorem moves_identityTypeUnder (i : Identity) {base : Translator (Option SymbolicName)}
    (h : Moves ρ (Option.map (SymbolicName.relocate ρ)) base base) :
    Moves ρ (SymbolicName.relocate ρ) (identityTypeUnder i base) (identityTypeUnder i base) := by
  unfold identityTypeUnder
  refine (moves_nameFor _ _).bind fun n => (moves_isRegistered _ _).bind fun known => ?_
  dsimp only [id]
  split
  · exact moves_pure rfl
  · split
    · exact (moves_unsupported (r := id)).bind fun _ => moves_register hρ _ n (h.bind fun b => moves_emitted hρ rfl)
    · exact moves_register hρ _ n (h.bind fun b => moves_emitted hρ rfl)

theorem moves_translateIdentityWithin (tree : Tree) (steps : Nat) : ∀ i : Identity,
    Moves ρ (SymbolicName.relocate ρ) (translateIdentityWithin tree steps i) (translateIdentityWithin tree steps i) := by
  induction steps with
  | zero => exact fun i => moves_identityTypeUnder hρ i (moves_baseIdentityType tree i fun _ => moves_unsupported)
  | succ steps ih => exact fun i => moves_identityTypeUnder hρ i (moves_baseIdentityType tree i ih)

/-- an object type with members -/
theorem moves_objectType (o : Head) (name base : SymbolicName) (isAbstract : Bool) {members members' : Translator (List Member)}
    (h : Moves ρ (Member.relocateAll ρ) members members') : Moves ρ (SymbolicName.relocate ρ)
    (register .objectType name do
      let children ← members
      emitObjectType o name base isAbstract children)
    (register .objectType (name.relocate ρ) do
      let children ← members'
      emitObjectType o (name.relocate ρ) (base.relocate ρ) isAbstract children) :=
  moves_register hρ _ name (h.bind fun _ => moves_emitted hρ rfl)

theorem moves_containerTypeOf (o : Head) {members members' : Translator (List Member)}
    (h : Moves ρ (Member.relocateAll ρ) members members') :
    Moves ρ (SymbolicName.relocate ρ) (containerTypeOf o members) (containerTypeOf o members') := by
  unfold containerTypeOf
  refine (moves_nameFor _ _).bind fun n => ?_
  have htype := moves_objectType hρ o n baseObjectType false h
  rwa [baseObjectType, relocate_builtInName hρ] at htype

theorem moves_listTypesOf (o : Head) {members members' : Translator (List Member)}
    (h : Moves ρ (Member.relocateAll ρ) members members') :
    Moves ρ (ListTypes.relocate ρ) (listTypesOf o members) (listTypesOf o members') := by
  have hbase : baseObjectType.relocate ρ = baseObjectType := relocate_builtInName hρ _
  have hreference : (builtInName "HasComponent").relocate ρ = builtInName "HasComponent" := relocate_builtInName hρ _
  unfold listTypesOf
  refine (moves_nameFor _ _).bind fun list => (moves_register hρ _ list (moves_emitted hρ ?_)).bind fun _ => ?_
  · simp only [Definition.relocate, Content.relocate, Option.map_some, hbase, Member.relocateAll]
    rfl
  refine (moves_nameFor _ _).bind fun element => ?_
  have helement := moves_objectType hρ o element baseObjectType false h
  rw [hbase] at helement
  refine helement.bind fun _ => ?_
  refine (moves_nameFor _ _).bind fun reference => (moves_register hρ _ reference (moves_emitted hρ ?_)).bind fun _ =>
    moves_pure rfl
  simp only [Definition.relocate, Content.relocate, Option.map_some, hreference]
  rfl

theorem moves_variableType (o : Head) (type : Option TypeDef) (role : String) (rank : ValueRank) :
    Moves ρ (SymbolicName.relocate ρ) (variableType o type role rank) (variableType o type role rank) := by
  have hbase : (builtInName "BaseDataVariableType").relocate ρ = builtInName "BaseDataVariableType" :=
    relocate_builtInName hρ _
  unfold variableType
  refine (moves_nameFor _ _).bind fun n => moves_register hρ _ n ((moves_leafDataType hρ o type).bind fun _ =>
    moves_emitted hρ ?_)
  simp only [Definition.relocate, Content.relocate, Option.map_some, hbase]
  rfl

theorem moves_choiceTypeOf (o : Head) {cases cases' : SymbolicName → Translator Unit}
    (h : ∀ n, Moves ρ id (cases n) (cases' (n.relocate ρ))) :
    Moves ρ (SymbolicName.relocate ρ) (choiceTypeOf o cases) (choiceTypeOf o cases') := by
  have hbase : baseObjectType.relocate ρ = baseObjectType := relocate_builtInName hρ _
  unfold choiceTypeOf
  refine (moves_nameFor _ _).bind fun n => moves_register hρ _ n ((moves_emitted hρ ?_).bind fun _ =>
    (h n).bind fun _ => moves_pure rfl)
  simp only [Definition.relocate, Content.relocate, Option.map_some, hbase, Member.relocateAll]
  rfl

theorem moves_caseTypeOf (o : Head) (choice : SymbolicName) {members members' : Translator (List Member)}
    (h : Moves ρ (Member.relocateAll ρ) members members') :
    Moves ρ (SymbolicName.relocate ρ) (caseTypeOf o choice members) (caseTypeOf o (choice.relocate ρ) members') := by
  unfold caseTypeOf
  exact (moves_nameFor _ _).bind fun n => moves_objectType hρ o n choice false h

end Types

/-! ## Members -/

/-- a variable named for a node -/
theorem moves_variableNode (o : Owner) (browse display : String) (description : Option String) (type : SymbolicName)
    (rank : ValueRank) (access : Option AccessLevel) (default : Option DefaultValue) : Moves ρ (Member.relocate ρ)
    (do let name ← nameFor o ""; return .variableNode ⟨name, browse, display, description⟩ (some type) rank access default)
    (do
      let name ← nameFor o ""
      return .variableNode ⟨name, browse, display, description⟩ (some (type.relocate ρ)) rank access
        (default.map (DefaultValue.relocate ρ))) :=
  (moves_nameFor _ _).bind fun _ => moves_pure (by rw [Member.relocate]; rfl)

/-- an object without members named for a node -/
theorem moves_objectNode (o : Owner) (browse display : String) (description : Option String) (type : SymbolicName) :
    Moves ρ (Member.relocate ρ)
      (do let name ← nameFor o ""; return .objectNode ⟨name, browse, display, description⟩ (some type) [] [])
      (do let name ← nameFor o ""; return .objectNode ⟨name, browse, display, description⟩ (some (type.relocate ρ)) [] []) :=
  (moves_nameFor _ _).bind fun _ => moves_pure (by simp only [Member.relocate, Member.relocateAll]; rfl)

theorem moves_listMember (o : Head) (keys : List String) (types : ListTypes) :
    Moves ρ (Member.relocate ρ) (listMember o keys types) (listMember o keys (types.relocate ρ)) :=
  moves_objectNode _ _ _ _ _

theorem moves_choiceMember (o : Head) (type : SymbolicName) (cases : List Node) (data : List DataNode)
    (owner : Option Enclosing) : Moves ρ (Member.relocate ρ) (choiceMember o type cases data owner)
      (choiceMember o (type.relocate ρ) cases data (owner.map (Enclosing.relocate ρ))) := by
  unfold choiceMember
  rw [Option.isSome_map]
  dsimp only
  split
  · exact (moves_note _ _).bind fun _ => moves_objectNode _ _ _ _ _
  · exact moves_objectNode _ _ _ _ _

theorem moves_containerMember (o : Head) (type : SymbolicName) (data : List DataNode) (owner : Option Enclosing)
    {members : List DataNode → Enclosing → Translator (List Member)}
    (h : ∀ ds e, Moves ρ (Member.relocateAll ρ) (members ds e) (members ds (e.relocate ρ))) :
    Moves ρ (Member.relocate ρ) (containerMember o type data owner members)
      (containerMember o (type.relocate ρ) data (owner.map (Enclosing.relocate ρ)) members) := by
  unfold containerMember
  refine (moves_nameFor _ _).bind fun n => ?_
  have hnode : ∀ browse display children, Moves ρ (Member.relocate ρ)
      (pure (.objectNode ⟨n, browse, display, describe o.description⟩ (some type) [] children) : Translator Member)
      (pure (.objectNode ⟨n.relocate ρ, browse, display, describe o.description⟩ (some (type.relocate ρ)) []
        (Member.relocateAll ρ children))) := fun _ _ _ => moves_pure (by rw [Member.relocate]; rfl)
  have hnone : Moves ρ (Member.relocateAll ρ) (pure [] : Translator (List Member)) (pure []) :=
    moves_pure (by rw [Member.relocateAll])
  dsimp only
  cases findChild? DataNode.containerChildren? o.name data with
  | none => exact hnone.bind (hnode _ _)
  | some ds =>
    cases owner with
    | none => exact hnone.bind (hnode _ _)
    | some e => exact (h ds (e.member n _)).bind (hnode _ _)

section Members

variable (hρ : Relocation ρ)

include hρ

theorem moves_listElements (o : Head) (types : ListTypes) (owner : Enclosing) (entries : List (List DataNode))
    {members : List DataNode → Enclosing → Translator (List Member)}
    (h : ∀ ds e, Moves ρ (Member.relocateAll ρ) (members ds e) (members ds (e.relocate ρ))) :
    Moves ρ (List.map (Definition.relocate ρ)) (listElements o types owner entries members)
      (listElements o (types.relocate ρ) (owner.relocate ρ) entries members) := by
  unfold listElements
  refine (moves_nameFor _ _).bind fun list => (moves_mapM fun entry _ => ?_).bind fun elements =>
    (moves_note _ _).bind fun _ => moves_pure rfl
  refine (moves_nextElement hρ list).bind fun i => (moves_nameFor _ _).bind fun n => ?_
  exact (h entry ⟨n, _⟩).bind fun _ => moves_emitted hρ rfl

theorem moves_leafMember (o : Head) (type : Option TypeDef) (data : List DataNode) (owner : Option Enclosing) :
    Moves ρ (Member.relocate ρ) (leafMember o type data owner) (leafMember o type data (owner.map (Enclosing.relocate ρ))) := by
  have hbrowse : (owner.map (Enclosing.relocate ρ)).map (·.browse) = owner.map (·.browse) := by
    cases owner <;> rfl
  unfold leafMember leafType
  rw [hbrowse]
  refine (moves_variableType hρ _ _ _ _).bind fun _ => ?_
  dsimp only
  split
  · refine (moves_leafDataType hρ o type).bind fun _ => ?_
    exact (moves_pure (r := Option.map (DefaultValue.relocate ρ)) rfl).bind fun _ => moves_variableNode _ _ _ _ _ _ _ _
  · exact (moves_pure (r := Option.map (DefaultValue.relocate ρ)) rfl).bind fun _ => moves_variableNode _ _ _ _ _ _ _ _

theorem moves_leafListMember (o : Head) (type : Option TypeDef) (data : List DataNode) (owner : Option Enclosing) :
    Moves ρ (Member.relocate ρ) (leafListMember o type data owner)
      (leafListMember o type data (owner.map (Enclosing.relocate ρ))) := by
  unfold leafListMember leafListType
  refine (moves_variableType hρ _ _ _ _).bind fun _ => ?_
  have hnone : Moves ρ (Option.map (DefaultValue.relocate ρ)) (pure none : Translator (Option DefaultValue)) (pure none) :=
    moves_pure rfl
  dsimp only
  cases findChild? DataNode.leafListValues? o.name data with
  | none => exact hnone.bind fun _ => moves_variableNode _ _ _ _ _ _ _ _
  | some vs =>
    cases owner with
    | none => exact hnone.bind fun _ => moves_variableNode _ _ _ _ _ _ _ _
    | some e =>
      refine (moves_leafDataType hρ o type).bind fun _ => ?_
      exact (moves_pure (r := Option.map (DefaultValue.relocate ρ)) rfl).bind fun _ => moves_variableNode _ _ _ _ _ _ _ _

end Members

mutual

theorem moves_memberOf (hρ : Relocation ρ) : ∀ (n : Node) (data : List DataNode) (owner : Option Enclosing),
    Moves ρ (Option.map (Member.relocate ρ)) (memberOf data owner n) (memberOf data (owner.map (Enclosing.relocate ρ)) n)
  | ⟨head, kind, children⟩, data, owner => by
    have hmembers := fun ds owner => moves_membersOf hρ children ds owner
    have htypes : Moves ρ (Member.relocateAll ρ) (membersOf [] none children) (membersOf [] none children) := hmembers [] none
    cases kind with
    | other keyword argument =>
      simp only [memberOf]
      split
      · exact (moves_note _ _).bind fun _ => moves_pure rfl
      · exact moves_unsupported
    | list keys =>
      simp only [memberOf]
      refine (moves_listTypesOf hρ head htypes).bind fun types => (moves_listMember head keys types).bind fun _ => ?_
      cases findChild? DataNode.listEntries? head.name data with
      | none => exact moves_pure rfl
      | some entries =>
        cases owner with
        | none => exact moves_pure rfl
        | some e =>
          exact (moves_listElements hρ head types e entries fun ds e => hmembers ds (some e)).bind fun _ =>
            moves_pure rfl
    | leaf type =>
      simp only [memberOf]
      exact (moves_leafMember hρ head type data owner).map fun _ => rfl
    | leafList type =>
      simp only [memberOf]
      exact (moves_leafListMember hρ head type data owner).map fun _ => rfl
    | container =>
      simp only [memberOf]
      exact (moves_containerTypeOf hρ head htypes).bind fun type =>
        (moves_containerMember head type data owner fun ds e => hmembers ds (some e)).map fun _ => rfl
    | choice =>
      simp only [memberOf]
      exact (moves_choiceTypeOf hρ head fun n => moves_caseTypesOf hρ children n).bind fun type =>
        (moves_choiceMember head type children data owner).map fun _ => rfl
    | typedef type =>
      simp only [memberOf]
      exact (moves_translateTypedef hρ type).bind fun _ => moves_pure rfl
    | case =>
      simp only [memberOf]
      exact moves_unsupported
    | identity bases =>
      simp only [memberOf]
      exact moves_unsupported

theorem moves_membersOf (hρ : Relocation ρ) : ∀ (ns : List Node) (data : List DataNode) (owner : Option Enclosing),
    Moves ρ (Member.relocateAll ρ) (membersOf data owner ns) (membersOf data (owner.map (Enclosing.relocate ρ)) ns)
  | [], data, owner => by
    simp only [membersOf]
    exact moves_pure (by rw [Member.relocateAll])
  | n :: ns, data, owner => by
    simp only [membersOf]
    refine (moves_memberOf hρ n data owner).bind fun m => (moves_membersOf hρ ns data owner).bind fun ms => moves_pure ?_
    cases m with
    | none => rfl
    | some m => exact (Member.relocateAll_append [m] ms).symm

theorem moves_caseTypesOf (hρ : Relocation ρ) : ∀ (cs : List Node) (choice : SymbolicName),
    Moves ρ id (caseTypesOf choice cs) (caseTypesOf (choice.relocate ρ) cs)
  | [], choice => by
    simp only [caseTypesOf]
    exact moves_pure rfl
  | ⟨head, kind, children⟩ :: cs, choice => by
    simp only [caseTypesOf]
    exact (moves_caseTypeOf hρ head choice (moves_membersOf hρ children [] none)).bind fun _ => moves_caseTypesOf hρ cs choice

end

/-! ## Whole translations -/

section Whole

variable (hρ : Relocation ρ)

include hρ

theorem moves_typeMembers (children : List Node) :
    Moves ρ (Member.relocateAll ρ) (typeMembers children) (typeMembers children) :=
  moves_membersOf hρ children [] none

theorem moves_containerInstance (n : Node) (type : SymbolicName) (data : List DataNode) : Moves ρ (Definition.relocate ρ)
    (containerInstance n type data) (containerInstance n (type.relocate ρ) data) := by
  have horganizes : (builtInName "Organizes").relocate ρ = builtInName "Organizes" := relocate_builtInName hρ _
  have hfolder : (builtInName "ObjectsFolder").relocate ρ = builtInName "ObjectsFolder" := relocate_builtInName hρ _
  unfold containerInstance
  refine (moves_nameFor _ _).bind fun name => ?_
  refine (moves_membersOf hρ n.children data (some ⟨name, _⟩)).bind fun children => moves_emitted hρ ?_
  simp only [Definition.relocate, Content.relocate, List.map_cons, Reference.relocate, horganizes, hfolder]
  rfl

omit hρ in
theorem moves_skipData (n : Node) (select : DataNode → Option α) (data : List DataNode) :
    Moves ρ id (skipData n select data) (skipData n select data) := by
  unfold skipData
  split
  · exact moves_note _ _
  · exact moves_pure rfl

theorem moves_translateContainer (n : Node) (data : List DataNode) :
    Moves ρ id (translateContainer n data) (translateContainer n data) := by
  unfold translateContainer
  refine (moves_nameFor _ _).bind fun name => (moves_isRegistered _ _).bind fun known => ?_
  refine (moves_containerTypeOf hρ n.head (moves_typeMembers hρ n.children)).bind fun _ => ?_
  dsimp only [id]
  split
  · split
    · exact moves_pure rfl
    · exact (moves_containerInstance hρ n name _).bind fun _ => moves_pure rfl
  · exact moves_pure rfl

theorem moves_translateStatement (tree : Tree) (name : String) (data : List DataNode) (n : Node) :
    Moves ρ id (translateStatement tree name data n) (translateStatement tree name data n) := by
  have hmembers := moves_typeMembers hρ n.children
  obtain ⟨head, kind, children⟩ := n
  unfold translateStatement
  cases kind with
  | other keyword argument =>
    dsimp only
    split
    · exact moves_note _ _
    · exact moves_unsupported
  | identity bases => exact (moves_translateIdentityWithin hρ tree _ _).bind fun _ => moves_pure rfl
  | container => exact moves_translateContainer hρ _ data
  | typedef type => exact (moves_translateTypedef hρ type).bind fun _ => moves_pure rfl
  | leaf type => exact (moves_variableType hρ _ _ _ _).bind fun _ => moves_skipData _ _ _
  | leafList type => exact (moves_variableType hρ _ _ _ _).bind fun _ => moves_skipData _ _ _
  | list keys => exact (moves_listTypesOf hρ head hmembers).bind fun _ => moves_skipData _ _ _
  | choice => exact (moves_choiceTypeOf hρ head fun n => moves_caseTypesOf hρ children n).bind fun _ => moves_pure rfl
  | case => exact moves_unsupported

theorem moves_translateTree (tree : Tree) (data : List DataNode) :
    Moves ρ id (translateTree tree data) (translateTree tree data) := by
  unfold translateTree
  refine (moves_forM fun m _ => ?_).bind fun _ => moves_get fun p q _ => moves_note _ _
  unfold translateModule
  exact (moves_note _ _).bind fun _ => moves_forM fun n _ => moves_translateStatement hρ tree m.name data n

end Whole

theorem relocated_start {t t' : String} (h : ρ t = t') (namespaces namespaces' : List Namespace) :
    Relocated ρ (.start (.new t namespaces)) (.start (.new t' namespaces')) := by
  refine ⟨?_, rfl, fun _ => rfl, fun _ _ => rfl, fun _ => rfl⟩
  show Namer.new t' = (Namer.new t).relocate ρ
  rw [← h]
  rfl

/-- a refusal holds no name of the design -/
theorem Refusal.relocate_eq {tree : Tree} {e : Failure} (h : Refusal tree e) : e.relocate ρ = e := by
  cases h <;> rfl

variable {v : Value} {d : Document} {tree : Tree} {s s' : Settings}

/-- **The namespace of a design is no more than a name for it.** Two translations of a checked schema with the same data, for
designs in any namespaces but that of the vocabulary, both answer, or both fail for the same cause at the same path. If they
answer, the definitions of the second are those of the first with the one namespace in the place of the other, in every name at
every depth, and the designs have the same issues. -/
theorem translate_relocate (hcheck : Document.check v = .ok d) (hresolve : d.resolve = .ok tree)
    (hs : s'.materialize = s.materialize) (ht : s.target ≠ baseUri) (ht' : s'.target ≠ baseUri) (data : List DataNode) :
    (∃ doc doc', translate s tree data = .ok doc ∧ translate s' tree data = .ok doc' ∧
      doc'.definitions.toList = doc.definitions.toList.map (Definition.relocate (Function.update id s.target s'.target)) ∧
      Audit.verdict doc' = Audit.verdict doc) ∨
    ∃ e, translate s tree data = .error e ∧ translate s' tree data = .error e := by
  -- exchanging the namespaces tells them apart, and so can be followed through both translations
  have hρ := relocation_swap ht ht'
  have hstart : Relocated (Equiv.swap s.target s'.target) (.start (.new s.target (designNamespaces s)))
      (.start (.new s'.target (designNamespaces s'))) := relocated_start (Equiv.swap_apply_left _ _) _ _
  have hmoves := moves_translateTree hρ tree (if s.materialize then data else [])
  have hrun' : run s' tree data =
      (translateTree tree (if s.materialize then data else [])).run (.start (.new s'.target (designNamespaces s'))) := by
    rw [← hs]
    rfl
  rcases hrun : run s tree data with ⟨e | _, p⟩
  · right
    obtain ⟨q, hq⟩ := hmoves.error hstart hrun
    rw [(run_refusal (Document.resolve_resolved hresolve) hrun).relocate_eq] at hq
    exact ⟨e, translate_eq_error_iff.2 ⟨p, hrun⟩, translate_eq_error_iff.2 ⟨q, hrun'.trans hq⟩⟩
  · left
    obtain ⟨q, hq, hpq⟩ := hmoves.ok hstart hrun
    have hdoc : translate s tree data = .ok p.document := translate_eq_ok_iff.2 ⟨p, hrun, rfl⟩
    refine ⟨p.document, q.document, hdoc, translate_eq_ok_iff.2 ⟨q, hrun'.trans hq, rfl⟩, ?_,
      Audit.verdict_relocate hρ hpq.definitions⟩
    rw [hpq.definitions]
    refine List.map_congr_left fun d hd => Definition.relocate_swap ht ht' fun part hpart => ?_
    exact translate_regular (treeText_of_resolve hcheck hresolve) hdoc part (List.mem_flatMap.2 ⟨d, hd, hpart⟩)

/-- the container with a leaf and its data, in the default namespace and in another one -/
theorem tankSchema_relocated : ∃ d doc doc', Document.check tankSchema = .ok d ∧ d.resolve = .ok tankTree ∧
    (Settings.default 0).target ≠ baseUri ∧ (Settings.mk "tank" (some "urn:t") 0 true).target ≠ baseUri ∧
    translate (.default 0) tankTree (tankData "1") = .ok doc ∧
    translate ⟨"tank", some "urn:t", 0, true⟩ tankTree (tankData "1") = .ok doc' ∧ doc.definitions.size = 3 ∧
    doc'.definitions.toList =
      doc.definitions.toList.map (Definition.relocate (Function.update id (Settings.default 0).target "urn:t")) ∧
    Audit.verdict doc' = Audit.verdict doc := by
  obtain ⟨d, hcheck, hresolve⟩ := resolve_tankSchema
  have ht : (Settings.default 0).target ≠ baseUri := by decide
  have ht' : (Settings.mk "tank" (some "urn:t") 0 true).target ≠ baseUri := by decide
  obtain ⟨doc, hdoc, hsize⟩ : ∃ doc, translate (.default 0) tankTree (tankData "1") = .ok doc ∧
      (doc.definitions.size == 3) = true := ok_of_any (by decide +kernel)
  have hsame : (Settings.mk "tank" (some "urn:t") 0 true).materialize = (Settings.default 0).materialize := rfl
  rcases translate_relocate hcheck hresolve hsame ht ht' (tankData "1") with ⟨doc1, doc', h1, h', hdefinitions, hverdict⟩ | ⟨e, he, -⟩
  · cases hdoc.symm.trans h1
    exact ⟨d, doc, doc', hcheck, hresolve, ht, ht', hdoc, h', beq_iff_eq.1 hsize, hdefinitions, hverdict⟩
  · cases hdoc.symm.trans he

end YangDesign.Translate
