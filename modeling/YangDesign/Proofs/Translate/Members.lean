/-
The members of types and objects, by recursion over the nodes of a tree.

`keeps_memberOf`, `keeps_membersOf` and `keeps_caseTypesOf` follow the recursion of the translation: whatever the data, the
members of some children refer to types that are in the design, and the types for the children are registered.
-/
import YangDesign.Proofs.Translate.Shapes

namespace YangDesign.Translate

open Design Instance Schema Progress

variable {tree : Tree} {todo done : List Job} {p : Progress}

/-! ## Members -/

/-- a member that refers to types in the design -/
def MemberReady (t : Progress) (m : Member) : Prop :=
  ∀ r ∈ m.targets, t.Ready r.1

theorem memberReady_variable {labels : Labels} {v : SymbolicName} {rank : ValueRank} {access : Option AccessLevel}
    {default : Option DefaultValue} (hv : p.Ready v) (hd : ∀ x, default = some x → p.Ready x.dataType) :
    MemberReady p (.variableNode labels (some v) rank access default) := by
  intro r hr
  rcases List.mem_cons.1 hr with rfl | hr
  · exact hv
  · cases default with
    | none => cases hr
    | some x =>
      obtain rfl := List.mem_singleton.1 hr
      exact hd x rfl

theorem memberReady_object {labels : Labels} {type : SymbolicName} {ms : List Member} (ht : p.Ready type)
    (hms : ∀ r ∈ Member.targetsOf ms, p.Ready r.1) : MemberReady p (.objectNode labels (some type) [] ms) := by
  intro r hr
  rw [Member.targets, List.append_assoc] at hr
  rcases List.mem_cons.1 hr with rfl | hr
  · exact ht
  · exact hms r hr

/-- a variable member, with or without a default value -/
theorem Sound.keeps_variableNode (h : Sound tree todo done p) {o : Owner} (ho : tree.Owns o) {v : SymbolicName}
    (hv : p.Ready v) {rank : ValueRank} {access : Option AccessLevel} {default : Option DefaultValue}
    (hd : ∀ x, default = some x → p.Ready x.dataType) (browse display : String) (description : Option String) :
    Keeps tree todo done p (do
      let name ← nameFor o ""
      return Member.variableNode ⟨name, browse, display, description⟩ (some v) rank access default)
      fun m t => MemberReady t m := by
  refine Keeps.bind (h.keeps_nameFor ho (.type .identity)) fun s t ht l _ => ht.keeps_pure ?_
  exact memberReady_variable (ready_mono h.indexed ht.indexed hv l) fun x hx => ready_mono h.indexed ht.indexed (hd x hx) l

theorem Sound.keeps_leafMember (hr : tree.Resolved) (h : Sound tree todo done p) {n : Node} {t : TypeDef}
    (hn : n ∈ tree.nodes) (hk : n.kind = .leaf (some t)) (hroom : Room todo n.head.path.length) (data : List DataNode)
    (owner : Option Enclosing) :
    Keeps tree todo done p (leafMember n.head (some t) data owner) fun m q => MemberReady q m ∧ Covered q n := by
  have howns : tree.Owns (ownerOf n.head) := Tree.owns_node hn (by rw [hk]; rfl)
  have htype : n.kind.type? = some t := by rw [hk]; rfl
  have hvariable := h.keeps_variableType hr (r := .leaf) .scalar hn (Or.inl ⟨hk, rfl, rfl⟩) hroom.no_dataType
  have hcovered : ∀ {q : Progress} {s : SymbolicName}, q.Asked .leaf (ownerOf n.head) s → Covered q n := by
    intro q s ha
    unfold Covered
    rw [hk]
    exact ⟨s, ha⟩
  unfold leafMember leafType
  refine Keeps.bind hvariable fun v t1 h1 _ hv => ?_
  have hready := h1.ready_of_asked hv hroom
  generalize visibleNames n.head.name.localName (owner.map (·.browse)) "" "" = names
  obtain ⟨browse, display⟩ := names
  dsimp only [leafDataType]
  split
  · have hdata := h1.keeps_dataTypeOf hr hn htype hroom.no_dataType
    refine Keeps.bind hdata fun s t2 h2 l2 hs => ?_
    rw [pure_bind]
    refine Keeps.imp (h2.keeps_variableNode howns (ready_mono h1.indexed h2.indexed hready l2) (fun x hx => ?_) _ _ _)
      fun m q _ l hm => ⟨hm, hcovered (hv.mono (l2.trans l))⟩
    cases hx
    exact hs.2
  · rw [pure_bind]
    exact Keeps.imp (h1.keeps_variableNode howns hready (fun x hx => by cases hx) _ _ _)
      fun m q _ l hm => ⟨hm, hcovered (hv.mono l)⟩

theorem Sound.keeps_leafListMember (hr : tree.Resolved) (h : Sound tree todo done p) {n : Node} {t : TypeDef}
    (hn : n ∈ tree.nodes) (hk : n.kind = .leafList (some t)) (hroom : Room todo n.head.path.length)
    (data : List DataNode) (owner : Option Enclosing) :
    Keeps tree todo done p (leafListMember n.head (some t) data owner) fun m q => MemberReady q m ∧ Covered q n := by
  have howns : tree.Owns (ownerOf n.head) := Tree.owns_node hn (by rw [hk]; rfl)
  have htype : n.kind.type? = some t := by rw [hk]; rfl
  have hvariable := h.keeps_variableType hr (r := .leafList) .array hn (Or.inr ⟨hk, rfl, rfl⟩)
    hroom.no_dataType
  have hcovered : ∀ {q : Progress} {s : SymbolicName}, q.Asked .leafList (ownerOf n.head) s → Covered q n := by
    intro q s ha
    unfold Covered
    rw [hk]
    exact ⟨s, ha⟩
  unfold leafListMember leafListType
  refine Keeps.bind hvariable fun v t1 h1 _ hv => ?_
  have hready := h1.ready_of_asked hv hroom
  dsimp only [visibleNames, leafDataType]
  split
  · have hdata := h1.keeps_dataTypeOf hr hn htype hroom.no_dataType
    refine Keeps.bind hdata fun s t2 h2 l2 hs => ?_
    rw [pure_bind]
    refine Keeps.imp (h2.keeps_variableNode howns (ready_mono h1.indexed h2.indexed hready l2) (fun x hx => ?_) _ _ _)
      fun m q _ l hm => ⟨hm, hcovered (hv.mono (l2.trans l))⟩
    cases hx
    exact hs.2
  · rw [pure_bind]
    exact Keeps.imp (h1.keeps_variableNode howns hready (fun x hx => by cases hx) _ _ _)
      fun m q _ l hm => ⟨hm, hcovered (hv.mono l)⟩

theorem Sound.keeps_listMember (h : Sound tree todo done p) {o : Head} (howns : tree.Owns (ownerOf o))
    {keys : List String} {types : ListTypes} (ht : p.Ready types.list) :
    Keeps tree todo done p (listMember o keys types) fun m t => MemberReady t m := by
  unfold listMember
  refine Keeps.bind (h.keeps_nameFor howns (.type .identity)) fun s t h1 l _ => h1.keeps_pure ?_
  exact memberReady_object (ready_mono h.indexed h1.indexed ht l) fun r hr => by cases hr

theorem Sound.keeps_containerMember (h : Sound tree todo done p) {n : Node} (howns : tree.Owns (ownerOf n.head))
    (hroom : Room todo n.head.path.length) {type : SymbolicName} (ht : p.Ready type) (data : List DataNode)
    (owner : Option Enclosing) {members : List DataNode → Enclosing → Translator (List Member)}
    (hm : ∀ ds e, Fills tree (n.head.path.length + 1) n.children (members ds e)) :
    Keeps tree todo done p (containerMember n.head type data owner members) fun m t => MemberReady t m := by
  unfold containerMember
  refine Keeps.bind (h.keeps_nameFor howns (.type .identity)) fun s t1 h1 l1 _ => ?_
  have hready := ready_mono h.indexed h1.indexed ht l1
  dsimp only [visibleNames]
  split
  · refine Keeps.bind (hm _ _ h1 (hroom.mono (Nat.le_succ _))) fun ms t2 h2 l2 hms => h2.keeps_pure ?_
    exact memberReady_object (ready_mono h1.indexed h2.indexed hready l2) hms.1
  · exact h1.keeps_pure (memberReady_object hready fun r hr => by cases hr)

theorem Sound.keeps_choiceMember (h : Sound tree todo done p) {o : Head} (howns : tree.Owns (ownerOf o))
    {type : SymbolicName} (ht : p.Ready type) (cases : List Node) (data : List DataNode) (owner : Option Enclosing) :
    Keeps tree todo done p (choiceMember o type cases data owner) fun m t => MemberReady t m := by
  have hlast : ∀ {q : Progress}, Sound tree todo done q → p.Later q → ∀ browse display description,
      Keeps tree todo done q (do
        let name ← nameFor (ownerOf o) ""
        return Member.objectNode ⟨name, browse, display, description⟩ (some type) [] []) fun m t => MemberReady t m := by
    intro q hq l browse display description
    refine Keeps.bind (hq.keeps_nameFor howns (.type .identity)) fun s t h1 l1 _ => h1.keeps_pure ?_
    exact memberReady_object (ready_mono h.indexed h1.indexed ht (l.trans l1)) fun r hr => by cases hr
  unfold choiceMember
  dsimp only [visibleNames]
  split
  · exact Keeps.bind (h.keeps_note _) fun _ t ht l _ => hlast ht l _ _ _
  · exact hlast h (Later.refl p) _ _ _

/-! ## Objects -/

/-- the job of an object never closes a derivation -/
theorem closes_of_object {x : Job} {d : Definition} (hx : ∀ r, x.purpose ≠ .type r) : Closes p x d := by
  rintro v rfl
  exact absurd rfl (hx v.role)

theorem fit_object {x : Job} {labels : Labels} {type : SymbolicName} {r : Reference} {ms : List Member}
    (ht : p.Ready type) (hr : p.Ready r.type) (hms : ∀ t ∈ Member.targetsOf ms, p.Ready t.1) :
    ∀ t ∈ (⟨labels, .object (some type) [r] ms⟩ : Definition).targets, Fit tree todo p x t := by
  intro t h
  refine Or.inl ?_
  rcases List.mem_cons.1 h with rfl | h
  · exact ht
  · rcases List.mem_cons.1 h with rfl | h
    · exact hr
    · exact hms t h

/-- the object for one entry of a list -/
def listElement (h : Head) (types : ListTypes) (owner : Enclosing) (list : SymbolicName)
    (members : List DataNode → Enclosing → Translator (List Member)) (entry : List DataNode) : Translator Definition := do
  let i ← nextElement list
  let name ← nameFor (ownerOf h) ("ElementInstance" ++ toString i)
  let (browse, display) := visibleNames h.name.localName none "" (" " ++ toString i)
  let children ← members entry ⟨name, browse⟩
  let d : Definition := ⟨⟨name, browse, display, describe h.description⟩,
    .object (some types.element) [⟨types.reference, ⟨list.namespaceUri, owner.name.name ++ "_" ++ list.name⟩, true⟩] children⟩
  Translate.emit d
  return d

theorem listElements_eq (h : Head) (types : ListTypes) (owner : Enclosing) (entries : List (List DataNode))
    (members : List DataNode → Enclosing → Translator (List Member)) : listElements h types owner entries members = do
      let list ← nameFor (ownerOf h) ""
      let elements ← entries.mapM (listElement h types owner list members)
      note (.materialized elements.length list.name)
      return elements := rfl

theorem Sound.keeps_listElement (h : Sound tree todo done p) {n : Node} {types : ListTypes}
    (howns : tree.Owns (ownerOf n.head)) (hroom : Room todo n.head.path.length) (he : p.Ready types.element)
    (hr : p.Ready types.reference) (owner : Enclosing) {list : SymbolicName} (hlist : p.namer.Gave (ownerOf n.head) "" list)
    {members : List DataNode → Enclosing → Translator (List Member)}
    (hm : ∀ ds e, Fills tree (n.head.path.length + 1) n.children (members ds e)) (entry : List DataNode) :
    Keeps tree todo done p (listElement n.head types owner list members entry) fun _ _ => True := by
  unfold listElement
  refine Holds.bind (Holds.imp (h.holds_nextElement hlist) fun i q1 hq1 => ?_)
  obtain ⟨h1, l1⟩ := hq1
  refine Holds.bind (Holds.imp (h1.keeps_nameFor howns (.element i)) fun s q2 hq2 => ?_)
  obtain ⟨h2, l2, hs, -⟩ := hq2
  dsimp only [visibleNames]
  refine Holds.bind (Holds.imp (hm _ _ h2 ((hroom.object (by simp)).mono (Nat.le_succ _))) fun ms q3 hq3 => ?_)
  obtain ⟨h3, l3, hms, -⟩ := hq3
  have l := (l1.trans l2).trans l3
  refine Holds.bind (Holds.imp (h3.holds_emit (hs.mono l3) (h3.begun _ List.mem_cons_self (by simp))
    (fit_object (ready_mono h.indexed h3.indexed he l) (ready_mono h.indexed h3.indexed hr l) hms)
    (closes_of_object (by simp))) fun _ q4 hq4 => ?_)
  exact holds_pure ⟨hq4.1.drop (by simp), l.trans hq4.2.1, trivial⟩

/-- the objects for the entries of a list -/
theorem Sound.keeps_listElements (h : Sound tree todo done p) {n : Node} {types : ListTypes}
    (howns : tree.Owns (ownerOf n.head)) (hroom : Room todo n.head.path.length) (he : p.Ready types.element)
    (hr : p.Ready types.reference) (owner : Enclosing) (entries : List (List DataNode))
    {members : List DataNode → Enclosing → Translator (List Member)}
    (hm : ∀ ds e, Fills tree (n.head.path.length + 1) n.children (members ds e)) :
    Keeps tree todo done p (listElements n.head types owner entries members) fun _ _ => True := by
  rw [listElements_eq]
  refine Keeps.bind (h.keeps_nameFor howns (.type .identity)) fun list t1 h1 l1 hlist => ?_
  refine Keeps.bind (keeps_mapM (fun entry _ q hq l => ?_) h1) fun es t2 h2 _ _ => ?_
  · have he := ready_mono h.indexed hq.indexed he (l1.trans l)
    have hr := ready_mono h.indexed hq.indexed hr (l1.trans l)
    exact hq.keeps_listElement howns hroom he hr owner (hlist.1.mono l) hm entry
  · exact Keeps.bind (h2.keeps_note _) fun _ t3 h3 _ _ => h3.keeps_pure trivial

/-! ## Recursion -/

theorem Sound.keeps_translateTypedef (hr : tree.Resolved) (h : Sound tree todo done p) {n : Node} {type : Option TypeDef}
    (hn : n ∈ tree.nodes) (hk : n.kind = .typedef type) (htodo : ∀ x ∈ todo, x.purpose ≠ .type .dataType) :
    Keeps tree todo done p (translateTypedef type) fun _ t => Covered t n := by
  have hcovered : ∀ {q : Progress}, (∀ t, type = some t → ∃ s, TypedAs q t s) → Covered q n := by
    intro q ht
    unfold Covered
    rw [hk]
    exact ht
  unfold translateTypedef
  cases type with
  | none => exact h.keeps_pure (hcovered fun t ht => by cases ht)
  | some t =>
    have hdata := h.keeps_dataTypeOf hr hn (by rw [hk]; rfl) htodo
    refine Keeps.map hdata fun s q _ _ hs => hcovered fun t' ht => ?_
    cases ht
    exact ⟨s, hs.1⟩

mutual

/-- the member for a child of a node -/
theorem keeps_memberOf (hr : tree.Resolved) : ∀ (n : Node) {parent : Node}, parent ∈ tree.nodes → n ∈ parent.children →
    ∀ (data : List DataNode) (owner : Option Enclosing) {todo done : List Job} {p : Progress}, Sound tree todo done p →
    Room todo n.head.path.length →
    Keeps tree todo done p (memberOf data owner n) fun m t => (∀ m', m = some m' → MemberReady t m') ∧ Covered t n
  | ⟨head, kind, children⟩, parent, hparent, hchild, data, owner, todo, done, p, h, hroom => by
    have hn : (⟨head, kind, children⟩ : Node) ∈ tree.nodes := Tree.child_mem_nodes hparent hchild
    have hfills : ∀ data owner, Fills tree (head.path.length + 1) children (membersOf data owner children) :=
      fun data owner => keeps_membersOf hr children hn (fun c hc => hc) data owner
    have hsome : ∀ {t : Progress} {m : Member}, MemberReady t m → ∀ m', some m = some m' → MemberReady t m' := by
      rintro t m hm m' ⟨⟩
      exact hm
    have hnone : ∀ {t : Progress} (m : Member), none = some m → MemberReady t m := fun m hm => by cases hm
    cases kind with
    | other keyword argument =>
      simp only [memberOf]
      split
      · exact Keeps.bind (h.keeps_note _) fun _ t ht _ _ => ht.keeps_pure ⟨hnone, trivial⟩
      · rename_i hkeyword
        exact keeps_unsupported (.child hparent hchild (by simpa [NodeKind.isForeignBelow] using hkeyword))
    | list keys =>
      have howns : tree.Owns (ownerOf head) := Tree.owns_node hn rfl
      simp only [memberOf]
      have htypes := h.keeps_listTypesOf hn rfl hroom (hfills [] none)
      refine Keeps.bind htypes fun types t1 h1 _ ht => ?_
      have hlist := h1.ready_of_asked ht.1 hroom
      have helement := h1.ready_of_asked ht.2.1 hroom
      have hreference := h1.ready_of_asked ht.2.2 hroom
      refine Keeps.bind (h1.keeps_listMember howns hlist) fun m t2 h2 l2 hm => ?_
      have hcovered : ∀ {q : Progress}, t1.Later q → Covered q ⟨head, .list keys, children⟩ :=
        fun l => ⟨⟨_, ht.1.mono l⟩, ⟨_, ht.2.1.mono l⟩, ⟨_, ht.2.2.mono l⟩⟩
      split
      · have helements := h2.keeps_listElements (n := ⟨head, .list keys, children⟩) howns hroom
          (ready_mono h1.indexed h2.indexed helement l2) (ready_mono h1.indexed h2.indexed hreference l2)
        refine Keeps.bind (helements _ _ fun ds e => hfills ds (some e)) fun _ t3 h3 l3 _ => h3.keeps_pure ?_
        exact ⟨hsome fun r hr => ready_mono h2.indexed h3.indexed (hm r hr) l3, hcovered (l2.trans l3)⟩
      · exact h2.keeps_pure ⟨hsome hm, hcovered l2⟩
    | leaf type =>
      cases type with
      | none => exact absurd rfl (hr.nodes _ hn).typed.1
      | some t =>
        simp only [memberOf]
        exact Keeps.map (h.keeps_leafMember hr hn rfl hroom data owner) fun m t _ _ hm => ⟨hsome hm.1, hm.2⟩
    | leafList type =>
      cases type with
      | none => exact absurd rfl (hr.nodes _ hn).typed.2.1
      | some t =>
        simp only [memberOf]
        exact Keeps.map (h.keeps_leafListMember hr hn rfl hroom data owner) fun m t _ _ hm => ⟨hsome hm.1, hm.2⟩
    | container =>
      have howns : tree.Owns (ownerOf head) := Tree.owns_node hn rfl
      simp only [memberOf]
      have htype := h.keeps_containerTypeOf hn rfl hroom (hfills [] none)
      refine Keeps.bind htype fun s t1 h1 _ hs => ?_
      have hmember := h1.keeps_containerMember (n := ⟨head, .container, children⟩) howns hroom
        (h1.ready_of_asked hs hroom) data owner (fun ds e => hfills ds (some e))
      exact Keeps.map hmember fun m t _ l hm => ⟨hsome hm, ⟨s, hs.mono l⟩⟩
    | choice =>
      have howns : tree.Owns (ownerOf head) := Tree.owns_node hn rfl
      simp only [memberOf]
      have htype := h.keeps_choiceTypeOf hn rfl (f := fun name => caseTypesOf name children) fun hq hs =>
        keeps_caseTypesOf hr children hn (fun c hc => ⟨hc, (hr.nodes _ hn).cases rfl c hc⟩) hq
          (hroom.mono (Nat.le_succ _)) hs
      refine Keeps.bind htype fun s t1 h1 _ hs => ?_
      have hmember := h1.keeps_choiceMember howns (h1.ready_of_asked hs hroom) children data owner
      exact Keeps.map hmember fun m t _ l hm => ⟨hsome hm, ⟨s, hs.mono l⟩⟩
    | typedef type =>
      simp only [memberOf]
      exact Keeps.bind (h.keeps_translateTypedef hr hn rfl hroom.no_dataType) fun _ t ht _ hc =>
        ht.keeps_pure ⟨hnone, hc⟩
    | case =>
      simp only [memberOf]
      exact keeps_unsupported (.child hparent hchild rfl)
    | identity bases =>
      simp only [memberOf]
      exact keeps_unsupported (.child hparent hchild rfl)

/-- the members for some children of a node -/
theorem keeps_membersOf (hr : tree.Resolved) : ∀ (ns : List Node) {parent : Node}, parent ∈ tree.nodes →
    (∀ n ∈ ns, n ∈ parent.children) → ∀ (data : List DataNode) (owner : Option Enclosing) {todo done : List Job}
    {p : Progress}, Sound tree todo done p → Room todo (parent.head.path.length + 1) →
    Keeps tree todo done p (membersOf data owner ns) fun ms t =>
      (∀ r ∈ Member.targetsOf ms, t.Ready r.1) ∧ ∀ c ∈ ns, Covered t c
  | [], parent, hparent, hns, data, owner, todo, done, p, h, hroom => by
    simp only [membersOf]
    exact h.keeps_pure ⟨(fun r hr => by cases hr), fun c hc => by cases hc⟩
  | n :: ns, parent, hparent, hns, data, owner, todo, done, p, h, hroom => by
    have hn : n ∈ parent.children := hns n List.mem_cons_self
    have hlength : n.head.path.length = parent.head.path.length + 1 := by
      rw [((hr.nodes _ hparent).below n hn).2, List.length_append]
      rfl
    simp only [membersOf]
    refine Keeps.bind (keeps_memberOf hr n hparent hn data owner h (hlength ▸ hroom)) fun m t1 h1 _ hm => ?_
    refine Keeps.bind (keeps_membersOf hr ns hparent (fun c hc => hns c (List.mem_cons_of_mem _ hc)) data owner h1 hroom)
      fun ms t2 h2 l2 hms => h2.keeps_pure ⟨fun r hr => ?_, ?_⟩
    · cases m with
      | none => exact hms.1 r hr
      | some m =>
        rw [Option.toList_some, List.singleton_append, Member.targetsOf, List.mem_append] at hr
        rcases hr with hr | hr
        · exact ready_mono h1.indexed h2.indexed (hm.1 m rfl r hr) l2
        · exact hms.1 r hr
    · exact List.forall_mem_cons.2 ⟨hm.2.mono l2, hms.2⟩

/-- the types of some cases of a choice -/
theorem keeps_caseTypesOf (hr : tree.Resolved) : ∀ (cs : List Node) {parent : Node}, parent ∈ tree.nodes →
    (∀ c ∈ cs, c ∈ parent.children ∧ c.kind = .case) → ∀ {todo done : List Job} {p : Progress} {s : SymbolicName},
    Sound tree todo done p → Room todo (parent.head.path.length + 1) → p.Ready s →
    Keeps tree todo done p (caseTypesOf s cs) fun _ t => ∀ c ∈ cs, Covered t c
  | [], parent, hparent, hcs, todo, done, p, s, h, hroom, hs => by
    simp only [caseTypesOf]
    exact h.keeps_pure fun c hc => by cases hc
  | ⟨head, kind, children⟩ :: cs, parent, hparent, hcs, todo, done, p, s, h, hroom, hs => by
    obtain ⟨hchild, hk⟩ := hcs _ List.mem_cons_self
    obtain rfl : kind = .case := hk
    have hn : (⟨head, .case, children⟩ : Node) ∈ tree.nodes := Tree.child_mem_nodes hparent hchild
    have hlength : head.path.length = parent.head.path.length + 1 := by
      have hpath : head.path = parent.head.path ++ [_] := ((hr.nodes _ hparent).below _ hchild).2
      rw [hpath, List.length_append]
      rfl
    have hfills : Fills tree (head.path.length + 1) children (membersOf [] none children) :=
      keeps_membersOf hr children hn (fun c hc => hc) [] none
    have hcase := h.keeps_caseTypeOf (n := ⟨head, .case, children⟩) hn rfl (hlength ▸ hroom) hs hfills
    simp only [caseTypesOf]
    refine Keeps.bind hcase fun m t1 h1 l1 hm => ?_
    refine Keeps.imp (keeps_caseTypesOf hr cs hparent (fun c hc => hcs c (List.mem_cons_of_mem _ hc)) h1 hroom
      (ready_mono h.indexed h1.indexed hs l1)) fun _ t2 _ l2 hcs => ?_
    exact List.forall_mem_cons.2 ⟨⟨m, hm.mono l2⟩, hcs⟩

end

end YangDesign.Translate
