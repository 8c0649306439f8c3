/-
A translation makes what its blueprint says.

`follows_membersOf` follows the recursion of the translation: the members for some children are those of the blueprint, whatever
types are known already, and the objects made on the way are those for the data. `run_traced` is the result for a whole
translation: the types recorded, and the objects in order.
-/
import YangDesign.Proofs.Schema.Siblings
import YangDesign.Proofs.Translate.Recording
import YangDesign.Proofs.Translate.Runs

namespace YangDesign.Translate

open Design Instance Schema

variable {α : Type} {W V : Node → Prop} {p q : Progress}

/-! ## Types of nodes -/

/-- the members of some children, filled from the data of an object -/
def Tells (W : Node → Prop) (data : List DataNode) (owner : Option Enclosing) (children : List Node)
    (x : Translator (List Member)) : Prop :=
  ∀ {p : Progress}, Recorded W p → Follows W p x fun nm ms t => ms = membersFor nm data owner children ∧
    t.stock = Stock.fill nm data owner children p.stock ∧ ∀ c ∈ children, Rendered nm c

/-- without an object to fill, nothing is made from the data -/
theorem Stock.fill_none (nm : Namer) (data : List DataNode) (ns : List Node) (k : Stock) :
    Stock.fill nm data none ns k = k := by
  induction ns generalizing k with
  | nil => rw [Stock.fill]
  | cons n ns ih =>
    obtain ⟨h, kind, children⟩ := n
    rw [Stock.fill, ih]
    cases kind <;> simp [Stock.fillNode]

/-- an object type with the members of types -/
theorem Recorded.follows_objectType (h : Recorded W p) {x : Node} {r : TypeRole} {s base : SymbolicName} (hx : W x)
    (hr : r ∈ typeRoles x.kind) (hs : p.namer.Gave (ownerOf x.head) r.text s) {members : Translator (List Member)}
    (hm : Tells W [] none x.children members)
    (htypes : ∀ nm, p.namer.Grows nm → s = nm.typeName r x.head →
      (r, objectTypeFor x.head s base false (membersFor nm [] none x.children)) ∈ typesFor nm x) :
    Follows W p (register r.family s do
      let children ← members
      emitObjectType x.head s base false children) fun _ m t => m = s ∧ t.stock = p.stock := by
  refine h.follows_type hx hr hs fun t ht g => Follows.bind (hm ht) fun ms u hu g' _ => ?_
  unfold emitObjectType
  refine Holds.imp (hu.follows_emitted _ (by simp [Definition.kind, Content.kind]) ⟨r, _, hs.mono (g.trans g')⟩)
    fun d v ⟨hv, g'', hd⟩ => ⟨hv, g'', fun nm hnm hms hname => ?_⟩
  obtain ⟨rfl, hstock⟩ := hd nm hnm
  obtain ⟨rfl, hfill, hrendered⟩ := hms
  rw [Stock.fill_none] at hfill
  exact ⟨htypes nm (((g.trans g').trans g'').trans hnm) hname, fun _ => hrendered, hstock.trans hfill⟩

/-- a type that does not depend on the nodes below -/
theorem Recorded.follows_fixed (h : Recorded W p) {x : Node} {r : TypeRole} {s : SymbolicName} {d : Definition} (hx : W x)
    (hr : r ∈ typeRoles x.kind) (hs : p.namer.Gave (ownerOf x.head) r.text s) (hd : d.kind ≠ .object) (hn : d.name = s)
    (hm : r.holdsMembers = false) (htypes : ∀ nm, s = nm.typeName r x.head → (r, d) ∈ typesFor nm x) :
    Follows W p (register r.family s (do emit d; return d)) fun _ m t => m = s ∧ t.stock = p.stock := by
  subst hn
  refine h.follows_type hx hr hs fun t ht g => (ht.follows_emitted d hd ⟨r, _, hs.mono g⟩).imp fun nm e u _ he hname => ?_
  obtain ⟨rfl, hstock⟩ := he
  exact ⟨htypes nm hname, fun hholds => absurd hholds (by simp [hm]), hstock⟩

theorem Recorded.follows_containerTypeOf (h : Recorded W p) {x : Node} (hx : W x) (hk : x.kind = .container)
    {members : Translator (List Member)} (hm : Tells W [] none x.children members) :
    Follows W p (containerTypeOf x.head members) fun nm s t => s = nm.typeName .container x.head ∧ t.stock = p.stock := by
  unfold containerTypeOf
  refine Follows.bind (h.follows_nameFor _ TypeRole.container.text) fun s t ht _ hs => ?_
  obtain ⟨-, hgave, -⟩ := hs t.namer (Namer.Grows.refl _)
  refine Follows.imp (ht.follows_objectType (r := .container) hx (by simp [hk, typeRoles]) hgave hm fun nm _ hname => ?_)
    fun nm m u _ hm hs => ⟨hm.1.trans hs.1, hm.2.trans hs.2.2.1⟩
  rw [typesFor, hk, hname]
  exact List.mem_cons_self

theorem Recorded.follows_listTypesOf (h : Recorded W p) {x : Node} (hx : W x) {keys : List String}
    (hk : x.kind = .list keys) {members : Translator (List Member)} (hm : Tells W [] none x.children members) :
    Follows W p (listTypesOf x.head members) fun nm types t => types = listTypesFor nm x.head ∧ t.stock = p.stock := by
  unfold listTypesOf
  refine Follows.bind (h.follows_nameFor _ TypeRole.list.text) fun s1 t1 h1 _ hs1 => ?_
  obtain ⟨-, hgave1, -⟩ := hs1 t1.namer (Namer.Grows.refl _)
  refine Follows.bind (h1.follows_fixed (r := .list) (d := objectTypeFor x.head s1 baseObjectType false []) hx
    (by simp [hk, typeRoles]) hgave1 (by simp [Definition.kind, Content.kind, objectTypeFor]) rfl rfl fun nm hname => ?_)
    fun list t2 h2 _ _ => ?_
  · rw [typesFor, hk, hname]
    exact List.mem_cons_self
  refine Follows.bind (h2.follows_nameFor _ TypeRole.element.text) fun s3 t3 h3 _ hs3 => ?_
  obtain ⟨-, hgave3, -⟩ := hs3 t3.namer (Namer.Grows.refl _)
  refine Follows.bind (h3.follows_objectType (r := .element) hx (by simp [hk, typeRoles]) hgave3 hm fun nm _ hname => ?_)
    fun element t4 h4 _ _ => ?_
  · rw [typesFor, hk, hname]
    exact List.mem_cons_of_mem _ List.mem_cons_self
  refine Follows.bind (h4.follows_nameFor _ TypeRole.reference.text) fun s5 t5 h5 _ hs5 => ?_
  obtain ⟨-, hgave5, -⟩ := hs5 t5.namer (Namer.Grows.refl _)
  refine Follows.bind (h5.follows_fixed (r := .reference) hx (by simp [hk, typeRoles]) hgave5
    (by simp [Definition.kind, Content.kind]) rfl rfl fun nm hname => ?_) fun reference t6 h6 _ _ => ?_
  · rw [typesFor, hk, hname]
    exact List.mem_cons_of_mem _ (List.mem_cons_of_mem _ List.mem_cons_self)
  refine h6.follows_pure fun nm _ hr6 hr5 hr4 hr3 hr2 hr1 => ⟨?_, ?_⟩
  · rw [hr2.1, hr4.1, hr6.1, hr1.1, hr3.1, hr5.1]
    rfl
  · rw [hr6.2, hr5.2.2.1, hr4.2, hr3.2.2.1, hr2.2, hr1.2.2.1]

theorem Recorded.follows_variableType (h : Recorded W p) {x : Node} (hx : W x) {t : TypeDef} {r : TypeRole}
    {rank : ValueRank}
    (hk : x.kind = .leaf (some t) ∧ r = .leaf ∧ rank = .scalar ∨ x.kind = .leafList (some t) ∧ r = .leafList ∧ rank = .array) :
    Follows W p (variableType x.head (some t) r.text rank) fun nm s u => s = nm.typeName r x.head ∧ u.stock = p.stock := by
  have hrole : r ∈ typeRoles x.kind ∧ r.family = .variableType ∧ r.holdsMembers = false := by
    rcases hk with ⟨hk, rfl, -⟩ | ⟨hk, rfl, -⟩ <;> rw [hk] <;> exact ⟨List.mem_cons_self, rfl, rfl⟩
  have htypes : ∀ nm, (r, variableTypeFor nm r x.head t rank) ∈ typesFor nm x := by
    intro nm
    rcases hk with ⟨hk, rfl, rfl⟩ | ⟨hk, rfl, rfl⟩ <;> rw [typesFor, hk] <;> exact List.mem_cons_self
  unfold variableType
  refine Follows.bind (h.follows_nameFor _ r.text) fun s q hq _ hs => ?_
  obtain ⟨-, hgave, -⟩ := hs q.namer (Namer.Grows.refl _)
  rw [← hrole.2.1]
  refine Follows.imp (hq.follows_type hx hrole.1 hgave fun u hu g => ?_) fun nm m u _ hm hs =>
    ⟨hm.1.trans hs.1, hm.2.trans hs.2.2.1⟩
  refine Follows.bind (hu.follows_dataTypeOf t) fun dt v hv g' _ => ?_
  refine (hv.follows_emitted _ (by simp [Definition.kind, Content.kind]) ⟨r, _, hgave.mono (g.trans g')⟩).imp fun nm d w _
    hd hdt hname => ?_
  obtain ⟨rfl, hstock⟩ := hd
  obtain ⟨rfl, hstock'⟩ := hdt
  refine ⟨?_, fun hholds => absurd hholds (by simp [hrole.2.2]), hstock.trans hstock'⟩
  rw [hname]
  exact htypes nm

theorem Recorded.follows_choiceTypeOf (h : Recorded W p) {x : Node} (hx : W x) (hk : x.kind = .choice)
    {cases : SymbolicName → Translator Unit}
    (hc : ∀ q s, Recorded W q → q.namer.Gave (ownerOf x.head) TypeRole.choice.text s →
      Follows W q (cases s) fun _ _ t => t.stock = q.stock) :
    Follows W p (choiceTypeOf x.head cases) fun nm s t => s = nm.typeName .choice x.head ∧ t.stock = p.stock := by
  unfold choiceTypeOf
  refine Follows.bind (h.follows_nameFor _ TypeRole.choice.text) fun s t ht _ hs => ?_
  obtain ⟨-, hgave, -⟩ := hs t.namer (Namer.Grows.refl _)
  refine Follows.imp (ht.follows_type (r := .choice) hx (by simp [hk, typeRoles]) hgave fun q hq g => ?_)
    fun nm m u _ hm hs => ⟨hm.1.trans hs.1, hm.2.trans hs.2.2.1⟩
  unfold emitObjectType
  refine Follows.bind (hq.follows_emitted (objectTypeFor x.head s baseObjectType true [])
    (by simp [Definition.kind, Content.kind, objectTypeFor]) ⟨.choice, _, hgave.mono g⟩) fun d u hu g' _ => ?_
  refine Follows.bind (hc u s hu (hgave.mono (g.trans g'))) fun _ v hv _ _ => hv.follows_pure fun nm _ hcases hd hname => ?_
  obtain ⟨rfl, hstock⟩ := hd
  refine ⟨?_, fun hholds => absurd hholds (by decide), hcases.trans hstock⟩
  rw [typesFor, hk, hname]
  exact List.mem_cons_self

theorem Recorded.follows_caseTypeOf (h : Recorded W p) {x : Node} (hx : W x) (hk : x.kind = .case)
    {choice : SymbolicName} (hc : p.namer.Gave (choiceOwner x.head) TypeRole.choice.text choice)
    {members : Translator (List Member)} (hm : Tells W [] none x.children members) :
    Follows W p (caseTypeOf x.head choice members) fun _ _ t => t.stock = p.stock := by
  unfold caseTypeOf
  refine Follows.bind (h.follows_nameFor _ TypeRole.case.text) fun s t ht g hs => ?_
  obtain ⟨-, hgave, -⟩ := hs t.namer (Namer.Grows.refl _)
  refine Follows.imp (ht.follows_objectType (r := .case) hx (by simp [hk, typeRoles]) hgave hm fun nm hnm hname => ?_)
    fun nm m u _ hm hs => hm.2.trans hs.2.2.1
  rw [typesFor, hk, hname, ← (hc.mono (g.trans hnm)).spelled]
  exact List.mem_cons_self

/-! ## Members -/

/-- what is made with the name of a node itself -/
theorem Recorded.follows_named (h : Recorded W p) (o : Head) (f : SymbolicName → α) :
    Follows W p (do let name ← nameFor (ownerOf o) ""; return f name) fun nm a t =>
      (a = f (nm.ownName o) ∧ nm.Calls o) ∧ t.stock = p.stock := by
  refine Follows.bind (h.follows_nameFor _ _) fun s t ht _ _ => ht.follows_pure fun nm hnm hs => ?_
  refine ⟨⟨?_, s, hs.2.1.mono hnm⟩, hs.2.2.1⟩
  rw [hs.1]
  rfl

theorem Recorded.follows_leafMember (h : Recorded W p) {x : Node} (hx : W x) {t : TypeDef} (hk : x.kind = .leaf (some t))
    (data : List DataNode) (owner : Option Enclosing) :
    Follows W p (leafMember x.head (some t) data owner) fun nm m u =>
      (some m = memberFor nm data owner x ∧ nm.Calls x.head) ∧ u.stock = p.stock := by
  obtain ⟨head, kind, children⟩ := x
  obtain rfl : kind = .leaf (some t) := hk
  unfold leafMember leafType
  refine Follows.bind (h.follows_variableType hx (r := .leaf) (Or.inl ⟨rfl, rfl, rfl⟩)) fun v u hu _ _ => ?_
  dsimp only [leafDataType]
  simp only [memberFor]
  split
  · rename_i value hvalue
    refine Follows.bind (hu.follows_dataTypeOf t) fun dt w hw _ _ => ?_
    rw [pure_bind]
    refine (hw.follows_named head _).imp fun nm m q _ hm hdt hv => ⟨⟨?_, hm.1.2⟩, hm.2.trans (hdt.2.trans hv.2)⟩
    rw [hm.1.1, hdt.1, hv.1, hvalue]
    rfl
  · rename_i hvalue
    rw [pure_bind]
    refine (hu.follows_named head _).imp fun nm m q _ hm hv => ⟨⟨?_, hm.1.2⟩, hm.2.trans hv.2⟩
    rw [hm.1.1, hv.1, hvalue]
    rfl

theorem Recorded.follows_leafListMember (h : Recorded W p) {x : Node} (hx : W x) {t : TypeDef}
    (hk : x.kind = .leafList (some t)) (data : List DataNode) (owner : Option Enclosing) :
    Follows W p (leafListMember x.head (some t) data owner) fun nm m u =>
      (some m = memberFor nm data owner x ∧ nm.Calls x.head) ∧ u.stock = p.stock := by
  obtain ⟨head, kind, children⟩ := x
  obtain rfl : kind = .leafList (some t) := hk
  unfold leafListMember leafListType
  refine Follows.bind (h.follows_variableType hx (r := .leafList) (Or.inr ⟨rfl, rfl, rfl⟩)) fun v u hu _ _ => ?_
  dsimp only [leafDataType]
  simp only [memberFor]
  have hnone : Follows W u (do
      let name ← nameFor (ownerOf head) ""
      return Member.variableNode ⟨name, (visibleNames head.name.localName none "" "").1,
        (visibleNames head.name.localName none "" "").2, describe head.description⟩ (some v) .array none none) fun nm m q =>
      v = nm.typeName .leafList head ∧ u.stock = p.stock → (some m = some (.variableNode
        (plainLabels (nm.ownName head) head.name.localName head.description) (some (nm.typeName .leafList head)) .array none
        none) ∧ nm.Calls head) ∧ q.stock = p.stock := by
    refine (hu.follows_named head _).imp fun nm m q _ hm hv => ⟨⟨?_, hm.1.2⟩, hm.2.trans hv.2⟩
    rw [hm.1.1, hv.1]
    rfl
  cases hvalues : findChild? DataNode.leafListValues? head.name data with
  | none =>
    dsimp only
    rw [pure_bind]
    simpa only [Option.map_none, Option.bind_none, Option.bind_fun_none] using hnone
  | some values =>
    cases owner with
    | none =>
      dsimp only
      rw [pure_bind]
      exact hnone
    | some e =>
      refine Follows.bind (hu.follows_dataTypeOf t) fun dt w hw _ _ => ?_
      rw [pure_bind]
      refine (hw.follows_named head _).imp fun nm m q _ hm hdt hv => ⟨⟨?_, hm.1.2⟩, hm.2.trans (hdt.2.trans hv.2)⟩
      rw [hm.1.1, hdt.1, hv.1]
      rfl

theorem Recorded.follows_choiceMember (h : Recorded W p) (o : Head) (type : SymbolicName) (cases : List Node)
    (data : List DataNode) (owner : Option Enclosing) :
    Follows W p (choiceMember o type cases data owner) fun nm m u =>
      (m = .objectNode (plainLabels (nm.ownName o) o.name.localName o.description) (some type) [] [] ∧ nm.Calls o) ∧
        u.stock = p.stock := by
  unfold choiceMember
  dsimp only [visibleNames]
  split
  · exact Follows.bind (h.follows_note _) fun _ t ht _ _ => (ht.follows_named o _).imp fun nm m u _ hm ht =>
      ⟨hm.1, hm.2.trans ht⟩
  · exact h.follows_named o _

theorem Recorded.follows_containerMember (h : Recorded W p) {x : Node} (hk : x.kind = .container) {type : SymbolicName}
    (data : List DataNode) (owner : Option Enclosing) {members : List DataNode → Enclosing → Translator (List Member)}
    (hm : ∀ ds e, Tells W ds (some e) x.children (members ds e)) :
    Follows W p (containerMember x.head type data owner members) fun nm m u => type = nm.typeName .container x.head →
      (some m = memberFor nm data owner x ∧ nm.Calls x.head) ∧ u.stock = Stock.fillNode nm data owner x p.stock := by
  obtain ⟨head, kind, children⟩ := x
  obtain rfl : kind = .container := hk
  unfold containerMember
  refine Follows.bind (h.follows_nameFor _ _) fun s t ht _ _ => ?_
  have hnone : Follows W t (pure (Member.objectNode ⟨s, (visibleNames head.name.localName none "" "").1,
      (visibleNames head.name.localName none "" "").2, describe head.description⟩ (some type) [] [])) fun nm m u =>
      s = nm.symbol (ownerOf head) "" ∧ t.namer.Gave (ownerOf head) "" s ∧ t.stock = p.stock ∧ t.registry = p.registry →
        type = nm.typeName .container head → (some m = some (.objectNode
          (plainLabels (nm.ownName head) head.name.localName head.description) (some (nm.typeName .container head)) [] []) ∧
          nm.Calls head) ∧ u.stock = p.stock := by
    refine ht.follows_pure fun nm hnm hs htype => ⟨⟨?_, s, hs.2.1.mono hnm⟩, hs.2.2.1⟩
    rw [hs.1, htype]
    rfl
  simp only [memberFor, Stock.fillNode]
  cases hds : findChild? DataNode.containerChildren? head.name data with
  | none => exact hnone
  | some ds =>
    cases owner with
    | none => exact hnone
    | some e =>
      refine Follows.bind (hm ds _ ht) fun ms u hu g _ => hu.follows_pure fun nm hnm hms hs htype => ?_
      obtain ⟨rfl, hstock, -⟩ := hms
      obtain ⟨rfl, hgave, hsame, -⟩ := hs
      rw [htype, hstock, hsame]
      exact ⟨⟨rfl, _, hgave.mono (g.trans hnm)⟩, rfl⟩

/-- one entry of a list, with the objects inside it -/
theorem Recorded.follows_listElement (h : Recorded W p) (o : Head) {children : List Node} (types : ListTypes)
    (owner : Enclosing) (list : SymbolicName) {members : List DataNode → Enclosing → Translator (List Member)}
    (hm : ∀ ds e, Tells W ds (some e) children (members ds e)) (entry : List DataNode) :
    Follows W p (listElement o types owner list members entry) fun nm _ u => list = nm.ownName o →
      types = listTypesFor nm o → u.stock = Stock.entry nm o owner (fun ds e => membersFor nm ds (some e) children)
        (fun ds e k => Stock.fill nm ds (some e) children k) p.stock entry := by
  unfold listElement
  refine Follows.bind (h.follows_nextElement list) fun i q1 h1 _ _ => ?_
  refine Follows.bind (h1.follows_nameFor _ _) fun name q2 h2 _ _ => ?_
  dsimp only
  refine Follows.bind (hm entry _ h2) fun ms q3 h3 _ _ => ?_
  refine Follows.bind (h3.follows_emit _ fun hd => absurd rfl hd) fun _ q4 h4 _ _ => h4.follows_pure ?_
  intro nm _ hemit hms hname hi hlist htypes
  obtain ⟨rfl, hstock3, -⟩ := hms
  obtain ⟨rfl, -, hstock2, -⟩ := hname
  obtain ⟨rfl, hstock1⟩ := hi
  rw [hemit, hstock3, hstock2, hstock1, hlist, htypes]
  rfl

/-- the entries of a list in order -/
theorem Recorded.follows_entries (h : Recorded W p) (o : Head) {children : List Node} (types : ListTypes)
    (owner : Enclosing) (list : SymbolicName) {members : List DataNode → Enclosing → Translator (List Member)}
    (hm : ∀ ds e, Tells W ds (some e) children (members ds e)) (entries : List (List DataNode)) :
    Follows W p (entries.mapM (listElement o types owner list members)) fun nm _ u => list = nm.ownName o →
      types = listTypesFor nm o → u.stock = entries.foldl (Stock.entry nm o owner
        (fun ds e => membersFor nm ds (some e) children) fun ds e k => Stock.fill nm ds (some e) children k) p.stock := by
  induction entries generalizing p with
  | nil => exact holds_mapM_nil ⟨h, Namer.Grows.refl _, fun _ _ _ _ => rfl⟩
  | cons entry entries ih =>
    rw [List.mapM_cons]
    refine Follows.bind (h.follows_listElement o types owner list hm entry) fun d u hu _ _ => ?_
    refine Follows.bind (ih hu) fun ds v hv _ _ => hv.follows_pure fun nm _ htail hhead hlist htypes => ?_
    rw [htail hlist htypes, hhead hlist htypes]
    rfl

theorem Recorded.follows_listElements (h : Recorded W p) {x : Node} {keys : List String} (hk : x.kind = .list keys)
    (types : ListTypes) (owner : Enclosing) {entries : List (List DataNode)} {data : List DataNode}
    (hdata : findChild? DataNode.listEntries? x.head.name data = some entries)
    {members : List DataNode → Enclosing → Translator (List Member)}
    (hm : ∀ ds e, Tells W ds (some e) x.children (members ds e)) :
    Follows W p (listElements x.head types owner entries members) fun nm _ u => types = listTypesFor nm x.head →
      u.stock = Stock.fillNode nm data (some owner) x p.stock := by
  obtain ⟨head, kind, children⟩ := x
  obtain rfl : kind = .list keys := hk
  rw [listElements_eq]
  refine Follows.bind (h.follows_nameFor _ _) fun list t ht _ _ => ?_
  refine Follows.bind (ht.follows_entries head types owner list hm entries) fun es u hu _ _ => ?_
  refine Follows.bind (hu.follows_note _) fun _ v hv _ _ => hv.follows_pure fun nm _ hnote hes hlist htypes => ?_
  rw [hnote, hes hlist.1 htypes, hlist.2.2.1]
  simp only [Stock.fillNode, hdata]

/-- the member for a list, and the objects for its entries -/
theorem Recorded.follows_listMember (h : Recorded W p) {x : Node} {keys : List String} (hk : x.kind = .list keys)
    (types : ListTypes) (data : List DataNode) (owner : Option Enclosing)
    {members : List DataNode → Enclosing → Translator (List Member)}
    (hm : ∀ ds e, Tells W ds (some e) x.children (members ds e)) :
    Follows W p (do
      let member ← listMember x.head keys types
      match findChild? DataNode.listEntries? x.head.name data, owner with
      | some entries, some owner =>
        let _ ← listElements x.head types owner entries members
      | _, _ => pure ()
      return some member) fun nm m u => types = listTypesFor nm x.head →
        (m = memberFor nm data owner x ∧ nm.Calls x.head) ∧ u.stock = Stock.fillNode nm data owner x p.stock := by
  obtain ⟨head, kind, children⟩ := x
  obtain rfl : kind = .list keys := hk
  have hmember : Follows W p (listMember head keys types) fun nm m u =>
      (types = listTypesFor nm head → some m = memberFor nm data owner ⟨head, .list keys, children⟩ ∧ nm.Calls head) ∧
        u.stock = p.stock := by
    unfold listMember
    refine (h.follows_named head _).imp fun nm m u _ hm => ⟨fun htypes => ⟨?_, hm.1.2⟩, hm.2⟩
    rw [hm.1.1, htypes, memberFor]
    rfl
  refine Follows.bind hmember fun m u hu _ _ => ?_
  dsimp only
  cases hentries : findChild? DataNode.listEntries? head.name data with
  | none =>
    refine hu.follows_pure fun nm _ hm htypes => ⟨hm.1 htypes, ?_⟩
    simp only [Stock.fillNode, hentries, hm.2]
  | some entries =>
    cases owner with
    | none =>
      refine hu.follows_pure fun nm _ hm htypes => ⟨hm.1 htypes, ?_⟩
      simp only [Stock.fillNode, hentries, hm.2]
    | some e =>
      refine Follows.bind (hu.follows_listElements (x := ⟨head, .list keys, children⟩) rfl types e hentries hm)
        fun _ v hv _ _ => hv.follows_pure fun nm _ hes hm htypes => ⟨hm.1 htypes, ?_⟩
      rw [hes htypes, hm.2]

/-! ## Recursion -/

/-- the nodes below a choice count it as the choice above them -/
theorem choiceOwner_of_below {known : List QName} {n c : Node} (h : n.Resolved known) (hc : c ∈ n.children) :
    choiceOwner c.head = ownerOf n.head := by
  obtain ⟨huri, hpath⟩ := h.below c hc
  rw [choiceOwner, huri, hpath, List.dropLast_concat]
  rfl

section Recursion

variable {tree : Tree}

mutual

/-- the member for a child of a node -/
theorem follows_memberOf (hr : tree.Resolved) (hW : ∀ x, W x → x ∈ tree.nodes) : ∀ (n : Node), (∀ x ∈ n.all, W x) →
    ∀ (data : List DataNode) (owner : Option Enclosing) {p : Progress}, Recorded W p →
    Follows W p (memberOf data owner n) fun nm m t => m = memberFor nm data owner n ∧
      t.stock = Stock.fillNode nm data owner n p.stock ∧ Rendered nm n
  | ⟨head, kind, children⟩, hn, data, owner, p, h => by
    have hself : W ⟨head, kind, children⟩ := hn _ (Node.mem_all_self _)
    have hbelow : ∀ x ∈ Node.allIn children, W x := fun x hx => hn x (by rw [Node.all]; exact List.mem_cons_of_mem _ hx)
    have hresolved := hr.nodes _ (hW _ hself)
    have htells : ∀ data owner, Tells W data owner children (membersOf data owner children) :=
      fun data owner => follows_membersOf hr hW children hbelow data owner
    cases kind with
    | other keyword argument =>
      simp only [memberOf]
      split
      · rename_i hkeyword
        refine Follows.bind (h.follows_note _) fun _ t ht _ _ => ht.follows_pure fun nm _ hs => ?_
        exact ⟨by simp [memberFor], by rw [hs]; simp [Stock.fillNode],
          by simpa [NodeKind.isForeignBelow] using hkeyword, fun hk => by cases hk⟩
      · exact follows_unsupported
    | list keys =>
      simp only [memberOf]
      refine Follows.bind (h.follows_listTypesOf hself rfl (htells [] none)) fun types t ht _ _ => ?_
      refine (ht.follows_listMember (x := ⟨head, .list keys, children⟩) rfl types data owner fun ds e =>
        htells ds (some e)).imp fun nm m u _ hm htypes => ?_
      obtain ⟨hm, hstock⟩ := hm htypes.1
      exact ⟨hm.1, by rw [hstock, htypes.2], rfl, fun _ => hm.2⟩
    | leaf type =>
      cases type with
      | none => exact absurd rfl hresolved.typed.1
      | some t =>
        simp only [memberOf]
        refine Follows.map (h.follows_leafMember hself rfl data owner) fun nm m u hm => ?_
        exact ⟨hm.1.1, by rw [hm.2]; simp [Stock.fillNode], rfl, fun _ => hm.1.2⟩
    | leafList type =>
      cases type with
      | none => exact absurd rfl hresolved.typed.2.1
      | some t =>
        simp only [memberOf]
        refine Follows.map (h.follows_leafListMember hself rfl data owner) fun nm m u hm => ?_
        exact ⟨hm.1.1, by rw [hm.2]; simp [Stock.fillNode], rfl, fun _ => hm.1.2⟩
    | container =>
      simp only [memberOf]
      refine Follows.bind (h.follows_containerTypeOf hself rfl (htells [] none)) fun s t ht _ _ => ?_
      refine Follows.map (ht.follows_containerMember (x := ⟨head, .container, children⟩) rfl data owner fun ds e =>
        htells ds (some e)) fun nm m u hm hs => ?_
      obtain ⟨hm, hstock⟩ := hm hs.1
      exact ⟨hm.1, by rw [hstock, hs.2], rfl, fun _ => hm.2⟩
    | choice =>
      simp only [memberOf]
      have hcases : ∀ c ∈ children, c.kind = .case ∧ choiceOwner c.head = ownerOf head :=
        fun c hc => ⟨hresolved.cases rfl c hc, choiceOwner_of_below hresolved hc⟩
      refine Follows.bind (h.follows_choiceTypeOf hself rfl fun q s hq hs =>
        follows_caseTypesOf hr hW children hbelow hcases hq hs) fun s t ht _ _ => ?_
      refine Follows.map (ht.follows_choiceMember head s children data owner) fun nm m u hm hs => ?_
      refine ⟨?_, by rw [hm.2, hs.2]; simp [Stock.fillNode], rfl, fun _ => hm.1.2⟩
      rw [hm.1.1, hs.1, memberFor]
    | typedef type =>
      simp only [memberOf]
      refine Follows.bind (h.follows_translateTypedef type) fun _ t ht _ _ => ht.follows_pure fun nm _ hs => ?_
      exact ⟨by simp [memberFor], by rw [hs]; simp [Stock.fillNode], rfl, fun hk => by cases hk⟩
    | case =>
      simp only [memberOf]
      exact follows_unsupported
    | identity bases =>
      simp only [memberOf]
      exact follows_unsupported

/-- the members for some children of a node -/
theorem follows_membersOf (hr : tree.Resolved) (hW : ∀ x, W x → x ∈ tree.nodes) : ∀ (ns : List Node),
    (∀ x ∈ Node.allIn ns, W x) → ∀ (data : List DataNode) (owner : Option Enclosing),
    Tells W data owner ns (membersOf data owner ns)
  | [], _, data, owner, p, h => by
    simp only [membersOf]
    exact h.follows_pure fun nm _ => ⟨by rw [membersFor], by rw [Stock.fill], fun c hc => by cases hc⟩
  | n :: ns, hns, data, owner, p, h => by
    rw [Node.allIn, List.forall_mem_append] at hns
    simp only [membersOf]
    refine Follows.bind (follows_memberOf hr hW n hns.1 data owner h) fun m t ht _ _ => ?_
    refine Follows.bind (follows_membersOf hr hW ns hns.2 data owner ht) fun ms u hu _ _ => ?_
    refine hu.follows_pure fun nm _ hms hm => ⟨?_, ?_, List.forall_mem_cons.2 ⟨hm.2.2, hms.2.2⟩⟩
    · rw [hm.1, hms.1, membersFor]
    · rw [hms.2.1, hm.2.1, Stock.fill]

/-- the types of some cases of a choice -/
theorem follows_caseTypesOf (hr : tree.Resolved) (hW : ∀ x, W x → x ∈ tree.nodes) : ∀ (cs : List Node),
    (∀ x ∈ Node.allIn cs, W x) → ∀ {o : Owner}, (∀ c ∈ cs, c.kind = .case ∧ choiceOwner c.head = o) →
    ∀ {p : Progress} {s : SymbolicName}, Recorded W p → p.namer.Gave o TypeRole.choice.text s →
    Follows W p (caseTypesOf s cs) fun _ _ t => t.stock = p.stock
  | [], _, o, _, p, s, h, _ => by
    simp only [caseTypesOf]
    exact h.follows_pure fun _ _ => rfl
  | ⟨head, kind, children⟩ :: cs, hcs, o, hcases, p, s, h, hs => by
    obtain ⟨⟨hk, ho⟩, htail⟩ := List.forall_mem_cons.1 hcases
    rw [Node.allIn, List.forall_mem_append, Node.all, List.forall_mem_cons] at hcs
    simp only [caseTypesOf]
    refine Follows.bind (h.follows_caseTypeOf (x := ⟨head, kind, children⟩) hcs.1.1 hk (ho ▸ hs)
      (follows_membersOf hr hW children hcs.1.2 [] none)) fun m t ht g _ => ?_
    exact (follows_caseTypesOf hr hW cs hcs.2 htail ht (hs.mono g)).imp fun _ _ _ _ htl hst => htl.trans hst

end

end Recursion

/-! ## Whole translations -/

/-- nodes of kinds that have a place of their own do not stand at one place -/
def Elsewhere (x y : Node) : Prop :=
  x.kind.isPlaced = true → y.kind.isPlaced = true → ownerOf x.head ≠ ownerOf y.head

section Top

variable {tree : Tree}

theorem follows_typeMembers (hr : tree.Resolved) (hW : ∀ x, W x → x ∈ tree.nodes) {n : Node} (hn : ∀ x ∈ n.all, W x) :
    Tells W [] none n.children (typeMembers n.children) :=
  follows_membersOf hr hW n.children (fun x hx => hn x (by rw [Node.all_eq]; exact List.mem_cons_of_mem _ hx)) [] none

theorem Recorded.follows_skipData (h : Recorded W p) (n : Node) (select : DataNode → Option α) (data : List DataNode) :
    Follows W p (skipData n select data) fun _ _ t => t.stock = p.stock := by
  unfold skipData
  split
  · exact h.follows_note _
  · exact h.follows_pure fun _ _ => rfl

/-- a container that stands at the place of another one, which was met before -/
def Repeated (V : Node → Prop) (n : Node) : Prop :=
  n.kind = .container ∧ ∃ x, V x ∧ x.kind = .container ∧ ownerOf x.head = ownerOf n.head

theorem not_repeated {n : Node} (h : ∀ x, V x → Elsewhere x n) : ¬ Repeated V n := by
  rintro ⟨hk, x, hx, hxk, howner⟩
  exact h x hx (by rw [hxk]; rfl) (by rw [hk]; rfl) howner

/-- the type of a container is registered only for containers at its place -/
theorem Recorded.repeated_of_isRegistered (h : Recorded V p) {n : Node} (hk : n.kind = .container) {s : SymbolicName}
    (hs : q.namer.Gave (ownerOf n.head) TypeRole.container.text s) (g : p.namer.Grows q.namer)
    (hknown : p.registry.isRegistered .objectType s = true) : Repeated V n := by
  rw [Registry.isRegistered, Assoc.contains, Option.isSome_iff_exists] at hknown
  obtain ⟨e, he⟩ := hknown
  rcases h.registered _ _ _ he with hf | hf | ⟨x, hx, r, hr, -, hgave, -⟩
  · cases hf
  · cases hf
  · have hnamed : q.Named (typeJob r (ownerOf x.head)) s := hgave.mono g
    have hjob : typeJob r (ownerOf x.head) = typeJob .container (ownerOf n.head) := hnamed.job_unique hs
    rw [typeJob, typeJob, Job.mk.injEq, Purpose.type.injEq] at hjob
    obtain ⟨rfl, howner⟩ := hjob
    refine ⟨hk, x, hx, ?_, howner⟩
    generalize x.kind = kind at hr
    cases kind <;> simp [typeRoles] at hr
    rfl

theorem Recorded.follows_containerInstance (hr : tree.Resolved) (hW : ∀ x, W x → x ∈ tree.nodes) (h : Recorded W p)
    {n : Node} (hn : ∀ x ∈ n.all, W x) (hk : n.kind = .container) (type : SymbolicName) {data ds : List DataNode}
    (hds : findChild? DataNode.containerChildren? n.head.name data = some ds) :
    Follows W p (containerInstance n type ds) fun nm _ t => type = nm.typeName .container n.head →
      t.stock = Stock.top nm data p.stock n := by
  have hbelow : ∀ x ∈ Node.allIn n.children, W x :=
    fun x hx => hn x (by rw [Node.all_eq]; exact List.mem_cons_of_mem _ hx)
  unfold containerInstance
  refine Follows.bind (h.follows_nameFor _ Purpose.container.text) fun s t ht _ _ => ?_
  dsimp only
  refine Follows.bind (follows_membersOf hr hW n.children hbelow ds _ ht) fun ms u hu _ _ => ?_
  refine Follows.bind (hu.follows_emit _ fun hd => absurd rfl hd) fun _ v hv _ _ =>
    hv.follows_pure fun nm _ hemit hms hs htype => ?_
  obtain ⟨rfl, hfill, -⟩ := hms
  obtain ⟨rfl, -, hsame, -⟩ := hs
  rw [hemit, hfill, hsame, htype, Stock.top, hk, hds]
  rfl

/-- a container at the top: its object is made when its type is new -/
theorem Recorded.follows_translateContainer (hr : tree.Resolved) (hW : ∀ x, W x → x ∈ tree.nodes) (h : Recorded V p)
    (hV : ∀ x, V x → W x) {n : Node} (hn : ∀ x ∈ n.all, W x) (hk : n.kind = .container) (data : List DataNode) :
    Follows W p (translateContainer n data) fun nm _ t =>
      if p.registry.isRegistered .objectType (nm.typeName .container n.head) = true then Repeated V n ∧ t.stock = p.stock
      else t.stock = Stock.top nm data p.stock n := by
  unfold translateContainer
  refine Follows.bind ((h.mono hV).follows_nameFor _ TypeRole.container.text) fun s t ht g hs => ?_
  obtain ⟨-, hgave, -, hregistry⟩ := hs t.namer (Namer.Grows.refl _)
  unfold isRegistered
  rw [bind_assoc]
  refine Holds.bind (holds_get ?_)
  rw [pure_bind, hregistry]
  refine Follows.bind (ht.follows_containerTypeOf (hn n n.mem_all_self) hk (follows_typeMembers hr hW hn))
    fun m u hu _ _ => ?_
  cases hknown : p.registry.isRegistered .objectType s with
  | true =>
    have hrepeated : Repeated V n := h.repeated_of_isRegistered hk hgave g hknown
    have hknown' : ∀ nm : Namer, s = nm.symbol (ownerOf n.head) TypeRole.container.text →
        p.registry.isRegistered .objectType (nm.typeName .container n.head) = true := by
      intro nm hs
      rw [Namer.typeName, ← hs, hknown]
    cases findChild? DataNode.containerChildren? n.head.name data <;>
    · refine hu.follows_pure fun nm _ hm hs => ?_
      rw [if_pos (hknown' nm hs.1)]
      exact ⟨hrepeated, hm.2.trans hs.2.2.1⟩
  | false =>
    have hnew : ∀ nm : Namer, s = nm.symbol (ownerOf n.head) TypeRole.container.text →
        ¬ p.registry.isRegistered .objectType (nm.typeName .container n.head) = true := by
      intro nm hs
      rw [Namer.typeName, ← hs, hknown]
      exact Bool.false_ne_true
    cases hds : findChild? DataNode.containerChildren? n.head.name data with
    | none =>
      refine hu.follows_pure fun nm _ hm hs => ?_
      rw [if_neg (hnew nm hs.1), hm.2, hs.2.2.1, Stock.top, hk, hds]
    | some ds =>
      dsimp only
      refine Follows.bind (hu.follows_containerInstance hr hW hn hk s hds) fun _ v hv _ _ =>
        hv.follows_pure fun nm _ hinstance hm hs => ?_
      rw [if_neg (hnew nm hs.1), hinstance hs.1, hm.2, hs.2.2.1]

/-- one statement at the top of a module -/
theorem Recorded.follows_translateStatement (hr : tree.Resolved) (hW : ∀ x, W x → x ∈ tree.nodes) (h : Recorded V p)
    (hV : ∀ x, V x → W x) {n : Node} (hn : ∀ x ∈ n.all, W x) (name : String) (data : List DataNode) :
    Follows W p (translateStatement tree name data n) fun nm _ t =>
      t.stock = Stock.top nm data p.stock n ∨ Repeated V n ∧ t.stock = p.stock := by
  have hself := hn n n.mem_all_self
  have hresolved := hr.nodes n (hW n hself)
  have hbelow : ∀ x ∈ Node.allIn n.children, W x :=
    fun x hx => hn x (by rw [Node.all_eq]; exact List.mem_cons_of_mem _ hx)
  have h' := h.mono hV
  -- only containers make objects
  have htop : n.kind ≠ .container → ∀ nm, Stock.top nm data p.stock n = p.stock := by
    intro hk nm
    unfold Stock.top
    split
    · rename_i hc _
      exact absurd hc hk
    · rfl
  unfold translateStatement
  split
  case h_1 hk =>
    split
    · exact (h'.follows_note _).imp fun nm _ _ _ ht => Or.inl (ht.trans (htop (by simp [hk]) nm).symm)
    · exact follows_unsupported
  case h_2 bases hk =>
    refine Follows.bind (follows_translateIdentityWithin tree _ h') fun _ t ht _ _ => ht.follows_pure fun nm _ hs => ?_
    exact Or.inl (hs.trans (htop (by simp [hk]) nm).symm)
  case h_3 hk =>
    refine (h.follows_translateContainer hr hW hV hn hk data).imp fun nm _ t _ ht => ?_
    split at ht
    · exact Or.inr ht
    · exact Or.inl ht
  case h_4 type hk =>
    refine Follows.bind (h'.follows_translateTypedef type) fun _ t ht _ _ => ht.follows_pure fun nm _ hs => ?_
    exact Or.inl (hs.trans (htop (by simp [hk]) nm).symm)
  case h_5 type hk =>
    cases type with
    | none => exact absurd hk hresolved.typed.1
    | some t =>
      refine Follows.bind (h'.follows_variableType hself (r := .leaf) (Or.inl ⟨hk, rfl, rfl⟩)) fun s u hu _ _ => ?_
      refine (hu.follows_skipData _ _ _).imp fun nm _ v _ hv hs => ?_
      exact Or.inl ((hv.trans hs.2).trans (htop (by simp [hk]) nm).symm)
  case h_6 type hk =>
    cases type with
    | none => exact absurd hk hresolved.typed.2.1
    | some t =>
      refine Follows.bind (h'.follows_variableType hself (r := .leafList) (Or.inr ⟨hk, rfl, rfl⟩)) fun s u hu _ _ => ?_
      refine (hu.follows_skipData _ _ _).imp fun nm _ v _ hv hs => ?_
      exact Or.inl ((hv.trans hs.2).trans (htop (by simp [hk]) nm).symm)
  case h_7 keys hk =>
    refine Follows.bind (h'.follows_listTypesOf hself hk (follows_typeMembers hr hW hn)) fun s u hu _ _ => ?_
    refine (hu.follows_skipData _ _ _).imp fun nm _ v _ hv hs => ?_
    exact Or.inl ((hv.trans hs.2).trans (htop (by simp [hk]) nm).symm)
  case h_8 hk =>
    have hcases : ∀ c ∈ n.children, c.kind = .case ∧ choiceOwner c.head = ownerOf n.head :=
      fun c hc => ⟨hresolved.cases hk c hc, choiceOwner_of_below hresolved hc⟩
    refine Follows.bind (h'.follows_choiceTypeOf hself hk fun q s hq hs =>
      follows_caseTypesOf hr hW n.children hbelow hcases hq hs) fun s u hu _ _ => ?_
    exact hu.follows_pure fun nm _ hs => Or.inl (hs.2.trans (htop (by simp [hk]) nm).symm)
  case h_9 hk => exact follows_unsupported

/-- one more statement after those that were met -/
theorem Recorded.follows_next (hr : tree.Resolved) {met : List Node} (h : Recorded (· ∈ Node.allIn met) p) {n : Node}
    (hW : ∀ x ∈ Node.allIn met ++ n.all, x ∈ tree.nodes) (name : String) (data : List DataNode) :
    Follows (· ∈ Node.allIn (met ++ [n])) p (translateStatement tree name data n) fun nm _ t =>
      t.stock = Stock.top nm data p.stock n ∨ Repeated (· ∈ Node.allIn met) n ∧ t.stock = p.stock := by
  have hnode : Node.allIn (met ++ [n]) = Node.allIn met ++ n.all := by
    rw [Node.allIn_append, Node.allIn, Node.allIn, List.append_nil]
  rw [hnode]
  exact h.follows_translateStatement hr hW (fun x hx => List.mem_append_left _ hx)
    (fun x hx => List.mem_append_right _ hx) name data

/-- statements in order, each of which meets only nodes that were not met before -/
theorem Recorded.follows_statements (hr : tree.Resolved) (name : String) (data : List DataNode) (ss : List Node) :
    ∀ {met : List Node} {p : Progress}, (∀ x ∈ Node.allIn (met ++ ss), x ∈ tree.nodes) →
    (Node.allIn (met ++ ss)).Pairwise Elsewhere → Recorded (· ∈ Node.allIn met) p →
    Follows (· ∈ Node.allIn (met ++ ss)) p (ss.forM (translateStatement tree name data)) fun nm _ t =>
      t.stock = ss.foldl (Stock.top nm data) p.stock := by
  induction ss with
  | nil =>
    intro met p hW hpair h
    rw [List.append_nil]
    exact h.follows_pure fun _ _ => rfl
  | cons n ss ih =>
    intro met p hW hpair h
    have hsplit : met ++ n :: ss = (met ++ [n]) ++ ss := by simp
    have hnodes : Node.allIn (met ++ n :: ss) = (Node.allIn met ++ n.all) ++ Node.allIn ss := by
      rw [Node.allIn_append, Node.allIn, List.append_assoc]
    have hnew : ∀ x ∈ Node.allIn met, Elsewhere x n := by
      rw [hnodes, List.append_assoc, List.pairwise_append] at hpair
      exact fun x hx => hpair.2.2 x hx n (List.mem_append_left _ n.mem_all_self)
    have hstep := h.follows_next hr (fun x hx => hW x (hnodes ▸ List.mem_append_left _ hx)) name data
    rw [hsplit] at hW hpair ⊢
    refine Follows.bind hstep fun _ t ht _ _ => (ih hW hpair ht).imp fun nm _ u _ hu hs => ?_
    rw [hu, hs.resolve_right fun hrep => not_repeated hnew hrep.1]
    rfl

/-- modules in order -/
theorem Recorded.follows_modules (hr : tree.Resolved) (data : List DataNode) (ms : List Module) :
    ∀ {met : List Node} {p : Progress}, (∀ x ∈ Node.allIn (met ++ ms.flatMap (·.statements)), x ∈ tree.nodes) →
    (Node.allIn (met ++ ms.flatMap (·.statements))).Pairwise Elsewhere → Recorded (· ∈ Node.allIn met) p →
    Follows (· ∈ Node.allIn (met ++ ms.flatMap (·.statements))) p (ms.forM (translateModule tree data)) fun nm _ t =>
      t.stock = (ms.flatMap (·.statements)).foldl (Stock.top nm data) p.stock := by
  induction ms with
  | nil =>
    intro met p hW hpair h
    rw [List.flatMap_nil, List.append_nil]
    exact h.follows_pure fun _ _ => rfl
  | cons m ms ih =>
    intro met p hW hpair h
    rw [List.flatMap_cons, ← List.append_assoc] at hW hpair ⊢
    have hmet : ∀ x ∈ Node.allIn (met ++ m.statements), x ∈ tree.nodes := by
      intro x hx
      refine hW x ?_
      rw [Node.allIn_append]
      exact List.mem_append_left _ hx
    have hpairs : (Node.allIn (met ++ m.statements)).Pairwise Elsewhere := by
      rw [Node.allIn_append, List.pairwise_append] at hpair
      exact hpair.1
    have hstep : Follows (· ∈ Node.allIn (met ++ m.statements)) p (translateModule tree data m) fun nm _ t =>
        t.stock = m.statements.foldl (Stock.top nm data) p.stock := by
      unfold translateModule
      refine Follows.bind (h.follows_note _) fun _ t ht _ _ => ?_
      refine (ht.follows_statements hr m.name data m.statements hmet hpairs).imp fun nm _ u _ hu hs => ?_
      rw [hu, hs]
    refine Follows.bind hstep fun _ t ht _ _ => (ih hW hpair ht).imp fun nm _ u _ hu hs => ?_
    rw [hu, hs, List.foldl_append]

/-- **What a translation makes.** Every type is recorded with the definition that the names of the translation give it, and the
objects are those for the data, in order. -/
theorem run_traced (hr : tree.Resolved) (hd : tree.Distinct) {s : Settings} {data : List DataNode}
    (h : run s tree data = (.ok (), p)) : Recorded (· ∈ tree.nodes) p ∧
      p.stock = tree.statements.foldl (Stock.top p.namer (if s.materialize then data else [])) .empty := by
  have hpair : (Node.allIn ([] ++ tree.modules.flatMap (·.statements))).Pairwise Elsewhere := by
    have := hd.pairwise_placed hr
    rw [Tree.nodes_eq] at this
    refine this.imp fun hplaces hx hy ho => ?_
    exact hplaces hx hy (congrArg Owner.namespaceUri ho) (congrArg Owner.path ho)
  have hstart : Recorded (· ∈ Node.allIn []) (.start (.new s.target (designNamespaces s))) := recorded_start _ _
  have hmodules := hstart.follows_modules hr (if s.materialize then data else []) tree.modules
    (fun x hx => by rw [Tree.nodes_eq]; exact hx) hpair
  have htree : Follows (· ∈ Node.allIn ([] ++ tree.modules.flatMap (·.statements)))
      (.start (.new s.target (designNamespaces s))) (translateTree tree (if s.materialize then data else []))
      fun nm _ t => t.stock = tree.statements.foldl (Stock.top nm (if s.materialize then data else [])) .empty := by
    unfold translateTree
    refine Follows.bind hmodules fun _ t ht _ _ => Holds.bind (holds_get ?_)
    exact (ht.follows_note _).imp fun nm _ u _ hu hs => hu.trans hs
  obtain ⟨hrecorded, -, hstock⟩ := Holds.ok htree h
  refine ⟨?_, hstock p.namer (Namer.Grows.refl _)⟩
  rw [Tree.nodes_eq]
  exact hrecorded

end Top

end YangDesign.Translate
