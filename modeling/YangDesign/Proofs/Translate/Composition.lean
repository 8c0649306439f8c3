/-
What every part of a translation is put together from.

A property of the steps of a translation that is kept by putting parts one after another (`StepRules`) is a property of every
part: of the types of data, identities and nodes, of members whatever the data, and of the object of a container. The walk over
the parts is done here once; counting the entries of lists is only needed where an object is filled.
-/
import YangDesign.Proofs.Schema.Nodes
import YangDesign.Proofs.Translate.Members

namespace YangDesign.Translate

open Design Instance Schema

/-- the type of an identity under its name -/
def identityTypeNamed (i : Identity) (base : Translator (Option SymbolicName)) (name : SymbolicName) :
    Translator SymbolicName := do
  if ← isRegistered .identity name then return name
  if i.bases.length > 1 then unsupported (.multipleBases i.head.name.localName) i.head.path
  register .identity name do
    let baseType ← base
    let d : Definition := ⟨plainLabels name i.head.name.localName i.head.description, .objectType baseType false []⟩
    emit d
    return d

/-- a property that the steps have and that sequences keep -/
structure StepRules (P : {α : Type} → Translator α → Prop) : Prop where
  pure : ∀ {α : Type} (a : α), P (Pure.pure a : Translator α)
  bind : ∀ {α β : Type} {x : Translator α} {f : α → Translator β}, P x → (∀ a, P (f a)) → P (x >>= f)
  fail : ∀ {α : Type} (e : Failure), P (throw e : Translator α)
  note : ∀ e : Event, P (Translate.note e)
  nameFor : ∀ (o : Owner) (role : String), P (Translate.nameFor o role)
  isRegistered : ∀ (f : Family) (n : SymbolicName), P (Translate.isRegistered f n)
  register : ∀ (f : Family) (n : SymbolicName) {build : Translator Definition}, P build → P (Translate.register f n build)
  emit : ∀ d : Definition, P (Translate.emit d)

namespace StepRules

variable {P : {α : Type} → Translator α → Prop} {α β : Type} (rules : StepRules P)
include rules

theorem map {x : Translator α} (f : α → β) (h : P x) : P (f <$> x) := by
  rw [map_eq_pure_bind]
  exact rules.bind h fun _ => rules.pure _

theorem mapM {f : α → Translator β} (h : ∀ a, P (f a)) (as : List α) : P (as.mapM f) := by
  induction as with
  | nil => exact rules.pure []
  | cons a as ih =>
    rw [List.mapM_cons]
    exact rules.bind (h a) fun _ => rules.bind ih fun _ => rules.pure _

/-! ## Types -/

theorem emitted (d : Definition) : P (do Translate.emit d; return d : Translator Definition) :=
  rules.bind (rules.emit d) fun _ => rules.pure d

theorem primitive (k : Kind) (path : List String) : P (liftM (primitiveType k path) : Translator SymbolicName) := by
  cases k with
  | builtIn b => exact rules.pure _
  | unknown name => exact rules.fail _

theorem dataTypeUnder (t : TypeDef) {base : Translator SymbolicName} (h : P base) : P (Translate.dataTypeUnder t base) := by
  unfold Translate.dataTypeUnder
  exact rules.bind (rules.nameFor _ _) fun n => rules.register _ n (rules.bind h fun _ => rules.emitted _)

theorem baseDataType (t b : TypeDef) {derived : Translator SymbolicName} (h : P derived) :
    P (Translate.baseDataType t b derived) := by
  unfold Translate.baseDataType
  split
  · exact rules.pure _
  · split
    · exact rules.primitive _ _
    · exact h

theorem registerDataType (t : TypeDef) : P (Translate.registerDataType t) := by
  induction t using TypeDef.base_induct with
  | step t ih =>
    obtain ⟨name, path, kind, base, enums, description⟩ := t
    cases base with
    | none =>
      rw [Translate.registerDataType]
      exact rules.dataTypeUnder _ (rules.primitive _ _)
    | some b =>
      rw [Translate.registerDataType]
      exact rules.dataTypeUnder _ (rules.baseDataType _ b (ih b rfl))

theorem dataTypeOf (t : TypeDef) : P (Translate.dataTypeOf t) := by
  unfold Translate.dataTypeOf
  split
  · exact rules.primitive _ _
  · exact rules.registerDataType t

theorem translateTypedef (type : Option TypeDef) : P (Translate.translateTypedef type) := by
  unfold Translate.translateTypedef
  cases type with
  | none => exact rules.pure none
  | some t => exact rules.map _ (rules.dataTypeOf t)

theorem leafDataType (o : Head) (type : Option TypeDef) : P (Translate.leafDataType o type) := by
  unfold Translate.leafDataType
  cases type with
  | none => exact rules.fail _
  | some t => exact rules.dataTypeOf t

theorem identityTypeNamed (i : Identity) {base : Translator (Option SymbolicName)} (h : P base) (n : SymbolicName) :
    P (Translate.identityTypeNamed i base n) := by
  have hbuild : P (Translate.register .identity n do
      let baseType ← base
      let d : Definition := ⟨plainLabels n i.head.name.localName i.head.description, .objectType baseType false []⟩
      Translate.emit d
      return d) := rules.register _ n (rules.bind h fun _ => rules.emitted _)
  unfold Translate.identityTypeNamed
  refine rules.bind (rules.isRegistered _ _) fun known => ?_
  split
  · exact rules.pure n
  · dsimp only
    split
    · exact rules.bind (rules.fail _) fun _ => hbuild
    · exact hbuild

theorem identityTypeUnder (i : Identity) {base : Translator (Option SymbolicName)} (h : P base) :
    P (Translate.identityTypeUnder i base) :=
  rules.bind (rules.nameFor _ _) (rules.identityTypeNamed i h)

theorem baseIdentityType (tree : Tree) (i : Identity) {next : Identity → Translator SymbolicName} (h : ∀ j, P (next j)) :
    P (Translate.baseIdentityType tree i next) := by
  unfold Translate.baseIdentityType
  split
  · exact rules.pure none
  · split
    · exact rules.fail _
    · exact rules.map _ (h _)

theorem translateIdentityWithin (tree : Tree) (steps : Nat) :
    ∀ i : Identity, P (Translate.translateIdentityWithin tree steps i) := by
  induction steps with
  | zero => exact fun i => rules.identityTypeUnder i (rules.baseIdentityType tree i fun _ => rules.fail _)
  | succ steps ih => exact fun i => rules.identityTypeUnder i (rules.baseIdentityType tree i ih)

theorem translateIdentity (tree : Tree) (i : Identity) : P (Translate.translateIdentity tree i) :=
  rules.translateIdentityWithin tree _ i

theorem objectType (o : Head) (name base : SymbolicName) (isAbstract : Bool) {members : Translator (List Member)}
    (h : P members) : P (Translate.register .objectType name do
      let children ← members
      emitObjectType o name base isAbstract children) :=
  rules.register _ name (rules.bind h fun _ => rules.emitted _)

theorem containerTypeOf (o : Head) {members : Translator (List Member)} (h : P members) :
    P (Translate.containerTypeOf o members) := by
  unfold Translate.containerTypeOf
  exact rules.bind (rules.nameFor _ _) fun n => rules.objectType o n _ _ h

theorem listTypesOf (o : Head) {members : Translator (List Member)} (h : P members) :
    P (Translate.listTypesOf o members) := by
  unfold Translate.listTypesOf
  refine rules.bind (rules.nameFor _ _) fun list => rules.bind (rules.register _ _ (rules.emitted _)) fun _ => ?_
  refine rules.bind (rules.nameFor _ _) fun element => rules.bind (rules.objectType o element _ _ h) fun _ => ?_
  refine rules.bind (rules.nameFor _ _) fun reference => rules.bind (rules.register _ _ (rules.emitted _)) fun _ => ?_
  exact rules.pure _

theorem variableType (o : Head) (type : Option TypeDef) (role : String) (rank : ValueRank) :
    P (Translate.variableType o type role rank) := by
  unfold Translate.variableType
  exact rules.bind (rules.nameFor _ _) fun n =>
    rules.register _ n (rules.bind (rules.leafDataType o type) fun _ => rules.emitted _)

theorem choiceTypeOf (o : Head) {cases : SymbolicName → Translator Unit} (h : ∀ n, P (cases n)) :
    P (Translate.choiceTypeOf o cases) := by
  unfold Translate.choiceTypeOf
  exact rules.bind (rules.nameFor _ _) fun n =>
    rules.register _ n (rules.bind (rules.emitted _) fun _ => rules.bind (h n) fun _ => rules.pure _)

theorem caseTypeOf (o : Head) (choice : SymbolicName) {members : Translator (List Member)} (h : P members) :
    P (Translate.caseTypeOf o choice members) := by
  unfold Translate.caseTypeOf
  exact rules.bind (rules.nameFor _ _) fun n => rules.objectType o n _ _ h

/-! ## Members -/

/-- what is made with the name of a node itself -/
theorem named (o : Owner) (f : SymbolicName → α) : P (do let name ← Translate.nameFor o ""; return f name) :=
  rules.bind (rules.nameFor o "") fun _ => rules.pure _

theorem leafMember (o : Head) (type : Option TypeDef) (data : List DataNode) (owner : Option Enclosing) :
    P (Translate.leafMember o type data owner) := by
  unfold Translate.leafMember leafType
  refine rules.bind (rules.variableType _ _ _ _) fun _ => ?_
  dsimp only
  split
  · exact rules.bind (rules.leafDataType o type) fun _ => rules.bind (rules.pure _) fun _ => rules.named _ _
  · exact rules.bind (rules.pure _) fun _ => rules.named _ _

theorem leafListMember (o : Head) (type : Option TypeDef) (data : List DataNode) (owner : Option Enclosing) :
    P (Translate.leafListMember o type data owner) := by
  unfold Translate.leafListMember leafListType
  refine rules.bind (rules.variableType _ _ _ _) fun _ => ?_
  dsimp only
  split
  · exact rules.bind (rules.leafDataType o type) fun _ => rules.bind (rules.pure _) fun _ => rules.named _ _
  · exact rules.bind (rules.pure _) fun _ => rules.named _ _

theorem containerMember (o : Head) (type : SymbolicName) (data : List DataNode) (owner : Option Enclosing)
    {members : List DataNode → Enclosing → Translator (List Member)} (h : ∀ ds e, owner ≠ none → P (members ds e)) :
    P (Translate.containerMember o type data owner members) := by
  unfold Translate.containerMember
  refine rules.bind (rules.nameFor _ _) fun _ => ?_
  dsimp only
  split
  · exact rules.bind (h _ _ (Option.some_ne_none _)) fun _ => rules.pure _
  · exact rules.bind (rules.pure _) fun _ => rules.pure _

theorem choiceMember (o : Head) (type : SymbolicName) (cases : List Node) (data : List DataNode)
    (owner : Option Enclosing) : P (Translate.choiceMember o type cases data owner) := by
  unfold Translate.choiceMember
  dsimp only
  split
  · exact rules.bind (rules.note _) fun _ => rules.named _ _
  · exact rules.named _ _

theorem listElements (hcount : ∀ list, P (nextElement list)) (o : Head) (types : ListTypes) (owner : Enclosing)
    (entries : List (List DataNode)) {members : List DataNode → Enclosing → Translator (List Member)}
    (h : ∀ ds e, P (members ds e)) : P (Translate.listElements o types owner entries members) := by
  rw [listElements_eq]
  refine rules.bind (rules.nameFor _ _) fun list => rules.bind (rules.mapM (fun entry => ?_) entries) fun _ =>
    rules.bind (rules.note _) fun _ => rules.pure _
  unfold listElement
  refine rules.bind (hcount list) fun i => rules.bind (rules.nameFor _ _) fun name => ?_
  dsimp only
  exact rules.bind (h _ _) fun _ => rules.emitted _

/-! ## Recursion -/

mutual

theorem memberOf : ∀ (n : Node) (data : List DataNode) {owner : Option Enclosing},
    (owner ≠ none → ∀ list, P (nextElement list)) → P (Translate.memberOf data owner n)
  | ⟨head, kind, children⟩, data, owner, hcount => by
    have htypes : P (Translate.membersOf [] none children) := membersOf children [] fun h => absurd rfl h
    have hfill : ∀ ds e, owner ≠ none → P (Translate.membersOf ds (some e) children) := fun ds e h =>
      membersOf children ds fun _ => hcount h
    cases kind with
    | other keyword argument =>
      simp only [Translate.memberOf]
      split
      · exact rules.bind (rules.note _) fun _ => rules.pure none
      · exact rules.fail _
    | list keys =>
      simp only [Translate.memberOf]
      refine rules.bind (rules.listTypesOf head htypes) fun types => rules.bind (rules.named _ _) fun member => ?_
      split
      · exact rules.bind (rules.listElements (hcount (Option.some_ne_none _)) head types _ _ fun ds e =>
          hfill ds e (Option.some_ne_none _)) fun _ => rules.pure _
      · exact rules.pure _
    | leaf type =>
      simp only [Translate.memberOf]
      exact rules.map _ (rules.leafMember head type data owner)
    | leafList type =>
      simp only [Translate.memberOf]
      exact rules.map _ (rules.leafListMember head type data owner)
    | container =>
      simp only [Translate.memberOf]
      exact rules.bind (rules.containerTypeOf head htypes) fun _ => rules.map _ (rules.containerMember head _ data owner hfill)
    | choice =>
      simp only [Translate.memberOf]
      exact rules.bind (rules.choiceTypeOf head fun n => caseTypesOf children n) fun _ =>
        rules.map _ (rules.choiceMember head _ _ _ _)
    | typedef type =>
      simp only [Translate.memberOf]
      exact rules.bind (rules.translateTypedef type) fun _ => rules.pure none
    | case =>
      simp only [Translate.memberOf]
      exact rules.fail _
    | identity bases =>
      simp only [Translate.memberOf]
      exact rules.fail _

theorem membersOf : ∀ (ns : List Node) (data : List DataNode) {owner : Option Enclosing},
    (owner ≠ none → ∀ list, P (nextElement list)) → P (Translate.membersOf data owner ns)
  | [], data, owner, _ => by
    simp only [Translate.membersOf]
    exact rules.pure []
  | n :: ns, data, owner, hcount => by
    simp only [Translate.membersOf]
    exact rules.bind (memberOf n data hcount) fun _ => rules.bind (membersOf ns data hcount) fun _ => rules.pure _

theorem caseTypesOf : ∀ (cs : List Node) (choice : SymbolicName), P (Translate.caseTypesOf choice cs)
  | [], choice => by
    simp only [Translate.caseTypesOf]
    exact rules.pure ()
  | ⟨head, kind, children⟩ :: cs, choice => by
    simp only [Translate.caseTypesOf]
    exact rules.bind (rules.caseTypeOf head choice (membersOf children [] fun h => absurd rfl h)) fun _ =>
      caseTypesOf cs choice

end

theorem typeMembers (ns : List Node) : P (Translate.typeMembers ns) :=
  rules.membersOf ns [] fun h => absurd rfl h

theorem containerInstance (hcount : ∀ list, P (nextElement list)) (n : Node) (type : SymbolicName) (data : List DataNode) :
    P (Translate.containerInstance n type data) := by
  unfold Translate.containerInstance
  refine rules.bind (rules.nameFor _ _) fun name => ?_
  dsimp only
  exact rules.bind (rules.membersOf n.children data fun _ => hcount) fun _ => rules.emitted _

end StepRules

end YangDesign.Translate
