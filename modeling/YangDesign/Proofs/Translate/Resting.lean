/-
Filling objects makes no types.

`AddsObjects p q`: the state `q` is `p` with more names given out and more objects in the design; the namespaces, the registry
and the types are the same. Once the types of a node and of all nodes below are registered (`Ripe`), whatever the data, the
members for it are made without another type: every type that is asked for is known (`rests_membersOf`).
-/
import YangDesign.Proofs.Translate.Coverage

namespace YangDesign.Translate

open Design Instance Schema Progress

variable {α β : Type} {tree : Tree} {p q r : Progress}

/-! ## Added objects -/

/-- the types of a design in order -/
def ownTypes (doc : ModelDocument) : List Definition :=
  doc.definitions.toList.filter (·.kind ≠ .object)

/-- `q` is `p` with more names given out and more objects -/
structure AddsObjects (p q : Progress) : Prop where
  namer : p.namer.Grows q.namer
  namespaces : q.namer.namespaces = p.namer.namespaces
  registry : q.registry = p.registry
  types : ownTypes q.document = ownTypes p.document
  names : ∀ n, p.document.contains n = true → q.document.contains n = true

theorem AddsObjects.refl (p : Progress) : AddsObjects p p :=
  ⟨Namer.Grows.refl _, rfl, rfl, rfl, fun _ h => h⟩

theorem AddsObjects.trans (h : AddsObjects p q) (k : AddsObjects q r) : AddsObjects p r where
  namer := h.namer.trans k.namer
  namespaces := k.namespaces.trans h.namespaces
  registry := k.registry.trans h.registry
  types := k.types.trans h.types
  names := fun n hn => k.names n (h.names n hn)

theorem ownTypes_append {doc doc' : ModelDocument} {d : Definition} (h : doc.append d = some doc') :
    ownTypes doc' = ownTypes doc ++ if d.kind = .object then [] else [d] := by
  unfold ownTypes
  rw [ModelDocument.definitions_append h, Array.toList_push, List.filter_append]
  by_cases hd : d.kind = .object <;> simp [hd]

/-! ## Rules -/

/-- an answer leaves the types as they are -/
def Rests (p : Progress) (x : Translator α) : Prop :=
  Holds x p (fun _ t => AddsObjects p t ∧ p.Later t) fun _ => True

theorem Rests.bind {x : Translator α} {f : α → Translator β} (h : Rests p x) (k : ∀ a t, p.Later t → Rests t (f a)) :
    Rests p (x >>= f) :=
  Holds.bind (Holds.imp h fun a t ⟨ha, l⟩ => Holds.imp (k a t l) fun _ _ ⟨ha', l'⟩ => ⟨ha.trans ha', l.trans l'⟩)

theorem Rests.map {x : Translator α} {f : α → β} (h : Rests p x) : Rests p (f <$> x) :=
  Holds.map h

theorem rests_pure (a : α) : Rests p (pure a : Translator α) :=
  holds_pure ⟨AddsObjects.refl p, Later.refl p⟩

theorem rests_unsupported {cause : Cause} {path : List String} : Rests p (unsupported cause path : Translator α) :=
  holds_throw trivial

theorem rests_note (e : Event) : Rests p (note e) :=
  holds_modify ⟨⟨Namer.Grows.refl _, rfl, rfl, rfl, fun _ h => h⟩, Namer.Grows.refl _, ModelDocument.grows_refl _,
    fun _ _ h => h, List.prefix_append _ _⟩

theorem rests_nextElement (list : SymbolicName) : Rests p (nextElement list) := by
  unfold nextElement
  exact Holds.bind (holds_get (Holds.bind (holds_modify (holds_pure
    ⟨⟨Namer.Grows.refl _, rfl, rfl, rfl, fun _ h => h⟩, Namer.Grows.refl _, ModelDocument.grows_refl _, fun _ _ h => h,
      List.prefix_refl _⟩))))

/-- a name in a namespace that has been seen -/
theorem holds_nameFor_seen {o : Owner} (h : o.namespaceUri ∈ p.namer.namespaces) (role : String) :
    Holds (nameFor o role) p (fun n t => t.namer.Gave o role n ∧ AddsObjects p t ∧ p.Later t) fun _ => True := by
  refine holds_nameFor_ok fun n m hr => ?_
  obtain ⟨hgave, hgrows, hnamespaces⟩ := Namer.gave_of_nameFor hr
  rw [Namer.see_eq_self h] at hgrows hnamespaces
  exact ⟨hgave, ⟨hgrows, hnamespaces, rfl, rfl, fun _ h => h⟩, hgrows, ModelDocument.grows_refl _, fun _ _ h => h,
    List.prefix_refl _⟩

theorem rests_nameFor {o : Owner} (h : o.namespaceUri ∈ p.namer.namespaces) (role : String) : Rests p (nameFor o role) :=
  Holds.imp (holds_nameFor_seen h role) fun _ _ ht => ht.2

/-- the name of a type that is registered -/
theorem rests_ask {k : TypeRole} {o : Owner} {s : SymbolicName} (h : p.Asked k o s) {f : SymbolicName → Translator α}
    (hf : ∀ n t, t.Asked k o n → p.Later t → Rests t (f n)) : Rests p (nameFor o k.text >>= f) := by
  refine Holds.bind (Holds.imp (holds_nameFor_seen h.named.seen k.text) fun n t ⟨hn, ha, l⟩ => ?_)
  obtain rfl : s = n := (h.named.mono l).name_unique hn
  exact Holds.imp (hf s t (h.mono l) l) fun _ _ ⟨ha', l'⟩ => ⟨ha.trans ha', l.trans l'⟩

/-- a type that is registered is not made again -/
theorem rests_register {k : TypeRole} {o : Owner} {s : SymbolicName} (h : p.Asked k o s) {build : Translator Definition} :
    Rests p (register k.family s build) := by
  refine holds_obtain (fun _ => ⟨AddsObjects.refl p, Later.refl p⟩) fun hnew => ?_
  cases h.registered.symm.trans hnew

/-- an emitted object -/
theorem rests_emit {d : Definition} (hd : d.kind = .object) : Rests p (emit d) := by
  unfold emit
  refine Holds.bind (holds_get ?_)
  cases ha : p.document.append d with
  | none => exact holds_throw trivial
  | some doc =>
    have hadds : AddsObjects p { p with document := doc } := by
      refine ⟨Namer.Grows.refl _, rfl, rfl, ?_, fun n hn => ?_⟩
      · rw [ownTypes_append ha, if_pos hd, List.append_nil]
      · rw [ModelDocument.contains_append ha, hn, Bool.or_true]
    have hlater : p.Later { p with document := doc } :=
      ⟨Namer.Grows.refl _, ModelDocument.grows_append ha, fun _ _ h => h, List.prefix_refl _⟩
    exact Holds.bind (holds_modify (Holds.imp (rests_note _) fun _ _ ⟨ha', l⟩ => ⟨hadds.trans ha', hlater.trans l⟩))

theorem rests_mapM {f : α → Translator β} {as : List α} (hf : ∀ a ∈ as, ∀ t, p.Later t → Rests t (f a)) :
    Rests p (as.mapM f) := by
  induction as generalizing p with
  | nil => exact rests_pure []
  | cons a as ih =>
    obtain ⟨ha, has⟩ := List.forall_mem_cons.1 hf
    rw [List.mapM_cons]
    refine Rests.bind (ha p (Later.refl p)) fun b t l => Rests.bind (ih fun a ha t' l' => ?_) fun bs u _ => rests_pure _
    exact has a ha t' (l.trans l')

/-! ## Ripe nodes -/

/-- all that the member for a node asks for is registered -/
structure Ripe (p : Progress) (n : Node) : Prop where
  covered : Covered p n
  typed : ∀ k t, variableOf? n.kind = some (k, t) → ∃ s, TypedAs p t s
  notUntyped : n.kind ≠ .leaf none ∧ n.kind ≠ .leafList none

theorem Ripe.mono {n : Node} (h : Ripe p n) (l : p.Later q) : Ripe q n :=
  ⟨h.covered.mono l, fun k t hk => (h.typed k t hk).imp fun _ hs => hs.mono l, h.notUntyped⟩

/-- **Nodes at and below a translated node are ripe** between the statements of a module -/
theorem Sound.ripe (h : Sound tree [] [] p) (hr : tree.Resolved) (hd : tree.Distinct) {n : Node} (hn : n ∈ tree.nodes)
    (hc : Covered p n) : ∀ x ∈ n.all, Ripe p x := by
  intro x hx
  obtain ⟨hmem, hcovered⟩ : x ∈ tree.nodes ∧ Covered p x :=
    Node.all_induct (P := fun x => x ∈ tree.nodes ∧ Covered p x)
      (fun y hy c hcy => ⟨Tree.child_mem_nodes hy.1 hcy, h.covered_child hr hd hy.1 hy.2 c hcy⟩) n ⟨hn, hc⟩ x hx
  obtain ⟨hleaf, hleafList, -⟩ := (hr.nodes x hmem).typed
  refine ⟨hcovered, fun k t hk => ?_, hleaf, hleafList⟩
  obtain ⟨-, -, -, dt, -, -, -, -, ht⟩ := h.variable_of_covered hr hd hmem hcovered hk
  exact ⟨dt, ht⟩

/-! ## Types -/

theorem rests_primitive (k : Kind) (path : List String) :
    Rests p (liftM (primitiveType k path) : Translator SymbolicName) :=
  holds_lift (fun _ _ => ⟨AddsObjects.refl p, Later.refl p⟩) fun _ _ => trivial

/-- the data type of a type is known -/
theorem rests_dataTypeOf {t : TypeDef} {s : SymbolicName} (h : TypedAs p t s) : Rests p (dataTypeOf t) := by
  unfold dataTypeOf
  unfold TypedAs at h
  split
  · exact rests_primitive _ _
  · rename_i hderived
    rw [if_neg hderived] at h
    obtain ⟨name, path, kind, base, enums, description⟩ := t
    cases base with
    | none =>
      rw [registerDataType, dataTypeUnder]
      exact rests_ask h fun n t hn _ => rests_register hn
    | some b =>
      rw [registerDataType, dataTypeUnder]
      exact rests_ask h fun n t hn _ => rests_register hn

theorem rests_translateTypedef {type : Option TypeDef} (h : ∀ t, type = some t → ∃ s, TypedAs p t s) :
    Rests p (translateTypedef type) := by
  unfold translateTypedef
  cases type with
  | none => exact rests_pure none
  | some t =>
    obtain ⟨s, hs⟩ := h t rfl
    exact (rests_dataTypeOf hs).map

theorem rests_containerTypeOf {o : Head} {s : SymbolicName} (h : p.Asked .container (ownerOf o) s)
    (members : Translator (List Member)) : Rests p (containerTypeOf o members) := by
  unfold containerTypeOf
  exact rests_ask h fun n t hn _ => rests_register hn

theorem rests_listTypesOf {o : Head} {a b c : SymbolicName} (ha : p.Asked .list (ownerOf o) a)
    (hb : p.Asked .element (ownerOf o) b) (hc : p.Asked .reference (ownerOf o) c) (members : Translator (List Member)) :
    Rests p (listTypesOf o members) := by
  unfold listTypesOf
  refine rests_ask ha fun n1 t1 h1 l1 => (rests_register h1).bind fun _ t2 l2 => ?_
  refine rests_ask (hb.mono (l1.trans l2)) fun n3 t3 h3 l3 => (rests_register h3).bind fun _ t4 l4 => ?_
  have hreference := hc.mono (((l1.trans l2).trans l3).trans l4)
  exact rests_ask hreference fun n5 t5 h5 _ => (rests_register h5).bind fun _ _ _ => rests_pure _

theorem rests_choiceTypeOf {o : Head} {s : SymbolicName} (h : p.Asked .choice (ownerOf o) s)
    (cases : SymbolicName → Translator Unit) : Rests p (choiceTypeOf o cases) := by
  unfold choiceTypeOf
  exact rests_ask h fun n t hn _ => rests_register hn

theorem rests_variableType {o : Head} {k : TypeRole} {s : SymbolicName} (h : p.Asked k (ownerOf o) s)
    (hk : k = .leaf ∨ k = .leafList) (type : Option TypeDef) (rank : ValueRank) :
    Rests p (variableType o type k.text rank) := by
  have hfamily : Family.variableType = k.family := by
    rcases hk with rfl | rfl <;> rfl
  unfold variableType
  rw [hfamily]
  exact rests_ask h fun n t hn _ => rests_register hn

/-! ## Members -/

/-- what is made with the name of a node itself -/
theorem rests_named {o : Owner} (h : o.namespaceUri ∈ p.namer.namespaces) (f : SymbolicName → α) :
    Rests p (do let name ← nameFor o ""; return f name) :=
  (rests_nameFor h "").bind fun _ _ _ => rests_pure _

theorem rests_leafMember {o : Head} {t : TypeDef} {s dt : SymbolicName} (h : p.Asked .leaf (ownerOf o) s)
    (ht : TypedAs p t dt) (data : List DataNode) (owner : Option Enclosing) :
    Rests p (leafMember o (some t) data owner) := by
  unfold leafMember leafType
  refine (rests_variableType h (Or.inl rfl) _ _).bind fun v u l => ?_
  have hseen := (h.mono l).named.seen
  dsimp only [leafDataType]
  split
  · refine (rests_dataTypeOf (ht.mono l)).bind fun _ w l' => ?_
    rw [pure_bind]
    exact rests_named (l'.namer.namespaces.subset hseen) _
  · rw [pure_bind]
    exact rests_named hseen _

theorem rests_leafListMember {o : Head} {t : TypeDef} {s dt : SymbolicName} (h : p.Asked .leafList (ownerOf o) s)
    (ht : TypedAs p t dt) (data : List DataNode) (owner : Option Enclosing) :
    Rests p (leafListMember o (some t) data owner) := by
  unfold leafListMember leafListType
  refine (rests_variableType h (Or.inr rfl) _ _).bind fun v u l => ?_
  have hseen := (h.mono l).named.seen
  dsimp only [leafDataType]
  split
  · refine (rests_dataTypeOf (ht.mono l)).bind fun _ w l' => ?_
    rw [pure_bind]
    exact rests_named (l'.namer.namespaces.subset hseen) _
  · rw [pure_bind]
    exact rests_named hseen _

theorem rests_choiceMember {o : Head} (h : (ownerOf o).namespaceUri ∈ p.namer.namespaces) (type : SymbolicName)
    (cases : List Node) (data : List DataNode) (owner : Option Enclosing) :
    Rests p (choiceMember o type cases data owner) := by
  unfold choiceMember
  dsimp only
  split
  · exact (rests_note _).bind fun _ t l => rests_named (l.namer.namespaces.subset h) _
  · exact rests_named h _

theorem rests_containerMember {o : Head} (h : (ownerOf o).namespaceUri ∈ p.namer.namespaces) (type : SymbolicName)
    (data : List DataNode) (owner : Option Enclosing) {members : List DataNode → Enclosing → Translator (List Member)}
    (hm : ∀ ds e t, p.Later t → Rests t (members ds e)) : Rests p (containerMember o type data owner members) := by
  unfold containerMember
  refine (rests_nameFor h "").bind fun name t l => ?_
  dsimp only
  split
  · exact (hm _ _ t l).bind fun _ _ _ => rests_pure _
  · exact rests_pure _

theorem rests_listElement {o : Head} (h : (ownerOf o).namespaceUri ∈ p.namer.namespaces) (types : ListTypes)
    (owner : Enclosing) (list : SymbolicName) {members : List DataNode → Enclosing → Translator (List Member)}
    (hm : ∀ ds e t, p.Later t → Rests t (members ds e)) (entry : List DataNode) :
    Rests p (listElement o types owner list members entry) := by
  unfold listElement
  refine (rests_nextElement list).bind fun i t1 l1 => ?_
  refine (rests_nameFor (l1.namer.namespaces.subset h) _).bind fun name t2 l2 => ?_
  dsimp only
  refine (hm _ _ t2 (l1.trans l2)).bind fun _ t3 _ => ?_
  exact (rests_emit rfl).bind fun _ _ _ => rests_pure _

theorem rests_listElements {o : Head} (h : (ownerOf o).namespaceUri ∈ p.namer.namespaces) (types : ListTypes)
    (owner : Enclosing) (entries : List (List DataNode)) {members : List DataNode → Enclosing → Translator (List Member)}
    (hm : ∀ ds e t, p.Later t → Rests t (members ds e)) : Rests p (listElements o types owner entries members) := by
  rw [listElements_eq]
  refine (rests_nameFor h "").bind fun list t1 l1 => (rests_mapM fun entry _ t2 l2 => ?_).bind fun _ _ _ =>
    (rests_note _).bind fun _ _ _ => rests_pure _
  have l := l1.trans l2
  exact rests_listElement (l.namer.namespaces.subset h) types owner list (fun ds e t l' => hm ds e t (l.trans l')) entry

/-! ## Recursion -/

mutual

/-- the member for a ripe node makes no type -/
theorem rests_memberOf : ∀ (n : Node) (data : List DataNode) (owner : Option Enclosing) {p : Progress},
    (∀ x ∈ n.all, Ripe p x) → Rests p (memberOf data owner n)
  | ⟨head, kind, children⟩, data, owner, p, h => by
    obtain ⟨hcovered, htyped, hleaf, hleafList⟩ := h _ (Node.mem_all_self _)
    have hbelow : ∀ ds e t, p.Later t → Rests t (membersOf ds (some e) children) := fun ds e t l =>
      rests_membersOf children ds (some e) fun x hx =>
        (h x (by rw [Node.all]; exact List.mem_cons_of_mem _ hx)).mono l
    cases kind with
    | other keyword argument =>
      simp only [memberOf]
      split
      · exact (rests_note _).bind fun _ _ _ => rests_pure _
      · exact rests_unsupported
    | list keys =>
      obtain ⟨⟨a, ha⟩, ⟨b, hb⟩, ⟨c, hc⟩⟩ : (∃ s, p.Asked .list (ownerOf head) s) ∧
          (∃ s, p.Asked .element (ownerOf head) s) ∧ ∃ s, p.Asked .reference (ownerOf head) s := hcovered
      simp only [memberOf]
      refine (rests_listTypesOf ha hb hc _).bind fun types t l => ?_
      have hseen := (ha.mono l).named.seen
      have hmember : Rests t (listMember head keys types) := rests_named hseen _
      refine hmember.bind fun m u l' => ?_
      split
      · refine (rests_listElements (l'.namer.namespaces.subset hseen) types _ _ fun ds e w l'' => ?_).bind fun _ _ _ =>
          rests_pure _
        exact hbelow ds e w (l.trans (l'.trans l''))
      · exact rests_pure _
    | leaf type =>
      obtain ⟨s, hs⟩ : ∃ s, p.Asked .leaf (ownerOf head) s := hcovered
      simp only [memberOf]
      cases type with
      | none => exact absurd rfl hleaf
      | some t =>
        obtain ⟨dt, hdt⟩ := htyped .leaf t rfl
        exact (rests_leafMember hs hdt data owner).map
    | leafList type =>
      obtain ⟨s, hs⟩ : ∃ s, p.Asked .leafList (ownerOf head) s := hcovered
      simp only [memberOf]
      cases type with
      | none => exact absurd rfl hleafList
      | some t =>
        obtain ⟨dt, hdt⟩ := htyped .leafList t rfl
        exact (rests_leafListMember hs hdt data owner).map
    | container =>
      obtain ⟨s, hs⟩ : ∃ s, p.Asked .container (ownerOf head) s := hcovered
      simp only [memberOf]
      refine (rests_containerTypeOf hs _).bind fun type t l => ?_
      exact (rests_containerMember (hs.mono l).named.seen type data owner fun ds e u l' => hbelow ds e u (l.trans l')).map
    | choice =>
      obtain ⟨s, hs⟩ : ∃ s, p.Asked .choice (ownerOf head) s := hcovered
      simp only [memberOf]
      exact (rests_choiceTypeOf hs _).bind fun type t l => (rests_choiceMember (hs.mono l).named.seen _ _ _ _).map
    | typedef type =>
      simp only [memberOf]
      exact (rests_translateTypedef hcovered).bind fun _ _ _ => rests_pure _
    | case =>
      simp only [memberOf]
      exact rests_unsupported
    | identity bases =>
      simp only [memberOf]
      exact rests_unsupported

/-- **Filling members makes no types**, once those of the nodes are there -/
theorem rests_membersOf : ∀ (ns : List Node) (data : List DataNode) (owner : Option Enclosing) {p : Progress},
    (∀ x ∈ Node.allIn ns, Ripe p x) → Rests p (membersOf data owner ns)
  | [], data, owner, p, _ => by
    simp only [membersOf]
    exact rests_pure []
  | n :: ns, data, owner, p, h => by
    rw [Node.allIn, List.forall_mem_append] at h
    simp only [membersOf]
    refine (rests_memberOf n data owner h.1).bind fun m t l => ?_
    refine (rests_membersOf ns data owner fun x hx => (h.2 x hx).mono l).bind fun ms u _ => rests_pure _

end

/-- the object for a container whose nodes are ripe -/
theorem rests_containerInstance {n : Node} {s : SymbolicName} (h : p.Asked .container (ownerOf n.head) s)
    (hripe : ∀ x ∈ Node.allIn n.children, Ripe p x) (type : SymbolicName) (data : List DataNode) :
    Rests p (containerInstance n type data) := by
  unfold containerInstance
  refine (rests_nameFor h.named.seen _).bind fun name t l => ?_
  dsimp only
  refine (rests_membersOf n.children data _ fun x hx => (hripe x hx).mono l).bind fun ms u _ => ?_
  exact (rests_emit rfl).bind fun _ _ _ => rests_pure _

end YangDesign.Translate
