/-
The types of containers, lists, choices and cases, and the members that stand for nodes in other types.

A build at a node only reaches nodes below it, so the types whose names are reserved meanwhile belong to owners with shorter
paths (`Room`), and a type that is asked for at the node is there when the answer comes. The builds are given the members of
the children; `Fills` is what they rely on.
-/
import YangDesign.Proofs.Translate.Types

namespace YangDesign.Translate

open Design Instance Schema Progress

variable {tree : Tree} {todo done : List Job} {p : Progress}

/-! ## Room -/

/-- the types that are still to be emitted belong to owners with paths shorter than `k` and are no data types -/
def Room (todo : List Job) (k : Nat) : Prop :=
  ∀ x ∈ todo, ∀ r, x.purpose = .type r → r ≠ .dataType ∧ x.owner.path.length < k

theorem room_nil (k : Nat) : Room [] k := fun x hx => by cases hx

theorem Room.type {k : Nat} (h : Room todo k) {r : TypeRole} (hr : r ≠ .dataType) {o : Owner}
    (ho : o.path.length = k) : Room (typeJob r o :: todo) (k + 1) := by
  intro x hx q hq
  rcases List.mem_cons.1 hx with rfl | hx
  · cases hq
    exact ⟨hr, by show o.path.length < k + 1; omega⟩
  · exact ⟨(h x hx q hq).1, Nat.lt_succ_of_lt (h x hx q hq).2⟩

theorem Room.object {k : Nat} (h : Room todo k) {x : Job} (hx : ∀ r, x.purpose ≠ .type r) : Room (x :: todo) k :=
  List.forall_mem_cons.2 ⟨fun r hr => absurd hr (hx r), h⟩

theorem Room.mono {k m : Nat} (h : Room todo k) (hk : k ≤ m) : Room todo m :=
  fun x hx r hr => ⟨(h x hx r hr).1, Nat.lt_of_lt_of_le (h x hx r hr).2 hk⟩

theorem Room.no_dataType {k : Nat} (h : Room todo k) : ∀ x ∈ todo, x.purpose ≠ .type .dataType :=
  fun x hx hp => (h x hx _ hp).1 rfl

/-- a type registered for an owner with a path of its length is in the design -/
theorem Sound.ready_of_asked (h : Sound tree todo done p) {r : TypeRole} {o : Owner} {s : SymbolicName}
    (ha : p.Asked r o s) (hroom : Room todo o.path.length) : p.Ready s :=
  Or.inr (h.contains_of_asked ha fun hx => lt_irrefl _ (hroom _ hx r rfl).2)

theorem ready_mono {p q : Progress} (hp : p.document.Indexed) (hq : q.document.Indexed) {s : SymbolicName}
    (h : p.Ready s) (l : p.Later q) : q.Ready s :=
  h.imp id (l.document.contains hp hq)

/-- the members of some children, wherever there is room for them -/
def Fills (tree : Tree) (k : Nat) (children : List Node) (x : Translator (List Member)) : Prop :=
  ∀ {todo done : List Job} {p : Progress}, Sound tree todo done p → Room todo k →
    Keeps tree todo done p x fun ms t => (∀ r ∈ Member.targetsOf ms, t.Ready r.1) ∧ ∀ c ∈ children, Covered t c

/-! ## Object types -/

/-- the definition of an object type -/
def objectTypeFor (h : Head) (name base : SymbolicName) (isAbstract : Bool) (children : List Member) : Definition :=
  ⟨plainLabels name h.name.localName h.description, .objectType (some base) isAbstract children⟩

theorem fit_objectType {x : Job} {h : Head} {name base : SymbolicName} {isAbstract : Bool} {ms : List Member}
    (hb : p.Ready base) (hm : ∀ r ∈ Member.targetsOf ms, p.Ready r.1) :
    ∀ t ∈ (objectTypeFor h name base isAbstract ms).targets, Fit tree todo p x t := by
  intro t ht
  rcases List.mem_cons.1 ht with rfl | ht
  · exact Or.inl hb
  · exact Or.inl (hm t ht)

/-- an object type with members -/
theorem Sound.keeps_objectType (h : Sound tree todo done p) {n : Node} {r : TypeRole} {s base : SymbolicName}
    (hr : r ≠ .dataType ∧ r ≠ .identity) (hs : p.Named (typeJob r (ownerOf n.head)) s) (hb : p.Ready base)
    (hroom : Room todo n.head.path.length) {members : Translator (List Member)}
    (hm : Fills tree (n.head.path.length + 1) n.children members)
    (hmade : ∀ t ms, (∀ c ∈ n.children, Covered t c) →
      Made tree t r (ownerOf n.head) (objectTypeFor n.head s base false ms)) :
    Keeps tree todo done p (register r.family s do
      let children ← members
      emitObjectType n.head s base false children) fun m t => t.Asked r (ownerOf n.head) m := by
  refine h.keeps_register hs (fun ha => ha) fun t _ ht l _ ha => ?_
  refine Holds.bind (Holds.imp (hm ht (hroom.type hr.1 rfl)) fun ms q hq => ?_)
  obtain ⟨hq, l2, hready, hcovered⟩ := hq
  have hbase : q.Ready base := ready_mono h.indexed hq.indexed hb (l.trans l2)
  refine Holds.imp (hq.holds_finish (d := objectTypeFor n.head s base false ms) (ha.mono l2) rfl
    (fit_objectType hbase hready) (closes_of_shape hr) (hmade q ms hcovered)) fun d w hw => ?_
  exact ⟨hw.2.1, l2.trans hw.2.2.later, ha.mono (l2.trans hw.2.2.later)⟩

/-- a type that refers to built-in types only -/
theorem Sound.keeps_fixed (h : Sound tree todo done p) {r : TypeRole} {o : Owner} {s : SymbolicName} {d : Definition}
    (hr : r ≠ .dataType ∧ r ≠ .identity) (hs : p.Named (typeJob r o) s) (hd : d.name = s)
    (ht : ∀ t ∈ d.targets, IsStandard t.1) (hm : ∀ t, Made tree t r o d) :
    Keeps tree todo done p (register r.family s (do Translate.emit d; return d)) fun m t => t.Asked r o m := by
  refine h.keeps_register hs (fun ha => ha) fun t _ h1 l _ ha => ?_
  refine Holds.imp (h1.holds_finish ha hd (fun x hx => Or.inl (Or.inl (ht x hx))) (closes_of_shape hr) (hm t))
    fun d w hw => ⟨hw.2.1, hw.2.2.later, ha.mono hw.2.2.later⟩

theorem Sound.keeps_containerTypeOf (h : Sound tree todo done p) {n : Node} (hn : n ∈ tree.nodes)
    (hk : n.kind = .container) (hroom : Room todo n.head.path.length) {members : Translator (List Member)}
    (hm : Fills tree (n.head.path.length + 1) n.children members) :
    Keeps tree todo done p (containerTypeOf n.head members) fun s t => t.Asked .container (ownerOf n.head) s := by
  have howns : tree.Owns (ownerOf n.head) := Tree.owns_node hn (by rw [hk]; rfl)
  unfold containerTypeOf
  refine Keeps.bind (h.keeps_nameFor howns (.type .container)) fun s t ht _ hs => ?_
  exact ht.keeps_objectType (r := .container) (by decide) hs.1 (Or.inl (isStandard_builtInName (by decide))) hroom hm
    fun q ms hc => .container hn hk hc rfl

theorem Sound.keeps_listTypesOf (h : Sound tree todo done p) {n : Node} {keys : List String} (hn : n ∈ tree.nodes)
    (hk : n.kind = .list keys) (hroom : Room todo n.head.path.length) {members : Translator (List Member)}
    (hm : Fills tree (n.head.path.length + 1) n.children members) :
    Keeps tree todo done p (listTypesOf n.head members) fun types t =>
      t.Asked .list (ownerOf n.head) types.list ∧ t.Asked .element (ownerOf n.head) types.element ∧
        t.Asked .reference (ownerOf n.head) types.reference := by
  have howns : tree.Owns (ownerOf n.head) := Tree.owns_node hn (by rw [hk]; rfl)
  unfold listTypesOf
  refine Keeps.bind (h.keeps_nameFor howns (.type .list)) fun s1 t1 h1 _ hs1 => ?_
  refine Keeps.bind (h1.keeps_fixed (r := .list) (d := objectTypeFor n.head s1 baseObjectType false []) (by decide) hs1.1
    rfl (fun x hx => ?_) fun t => .list hn hk rfl) fun list t2 h2 _ hl => ?_
  · obtain rfl := List.mem_singleton.1 hx
    exact isStandard_builtInName (by decide)
  refine Keeps.bind (h2.keeps_nameFor howns (.type .element)) fun s3 t3 h3 l3 hs3 => ?_
  refine Keeps.bind (h3.keeps_objectType (r := .element) (by decide) hs3.1 (Or.inl (isStandard_builtInName (by decide))) hroom hm
    fun q ms hc => .element hn hk hc rfl) fun element t4 h4 l4 he => ?_
  refine Keeps.bind (h4.keeps_nameFor howns (.type .reference)) fun s5 t5 h5 l5 hs5 => ?_
  refine Keeps.bind (h5.keeps_fixed (r := .reference) (by decide) hs5.1 rfl (fun x hx => ?_) fun t =>
    .reference hn hk rfl) fun reference t6 h6 l6 hr => ?_
  · obtain rfl := List.mem_singleton.1 hx
    exact isStandard_builtInName (by decide)
  · exact h6.keeps_pure ⟨hl.mono (((l3.trans l4).trans l5).trans l6), he.mono (l5.trans l6), hr⟩

/-- a choice is emitted before its cases, which derive from it -/
theorem Sound.keeps_choiceTypeOf (h : Sound tree todo done p) {n : Node} (hn : n ∈ tree.nodes) (hk : n.kind = .choice)
    {f : SymbolicName → Translator Unit}
    (hc : ∀ {done : List Job} {q : Progress} {s : SymbolicName}, Sound tree todo done q → q.Ready s →
      Keeps tree todo done q (f s) fun _ t => ∀ c ∈ n.children, Covered t c) :
    Keeps tree todo done p (choiceTypeOf n.head f) fun s t => t.Asked .choice (ownerOf n.head) s := by
  have howns : tree.Owns (ownerOf n.head) := Tree.owns_node hn (by rw [hk]; rfl)
  unfold choiceTypeOf
  refine Keeps.bind (h.keeps_nameFor howns (.type .choice)) fun s t1 h1 _ hs => ?_
  refine h1.keeps_register (r := .choice) hs.1 (fun ha => ha) fun t _ ht l _ ha => ?_
  unfold emitObjectType
  let d := objectTypeFor n.head s baseObjectType true []
  have hemit := ht.holds_emit (d := d) ha.named ⟨s, ha⟩
    (fit_objectType (Or.inl (isStandard_builtInName (by decide))) fun r hr => by cases hr) (closes_of_shape (by decide))
  refine Holds.bind (Holds.bind (hemit.imp fun _ t2 ht2 => holds_pure ?_))
  obtain ⟨h2, l2, hget, -⟩ := ht2
  refine Holds.bind (Holds.imp (hc h2 (Or.inr (ModelDocument.Indexed.contains_of_get? hget))) fun _ t3 ht3 => ?_)
  obtain ⟨h3, l3, hcovered⟩ := ht3
  obtain ⟨h4, l4⟩ := h3.record (ha.mono (l2.trans l3)) (l3.document.get? h2.indexed h3.indexed hget)
    (.choice hn hk hcovered rfl)
  have l := (l2.trans l3).trans l4
  exact holds_pure ⟨h4, l, ha.mono l⟩

theorem Sound.keeps_caseTypeOf (h : Sound tree todo done p) {n : Node} (hn : n ∈ tree.nodes) (hk : n.kind = .case)
    (hroom : Room todo n.head.path.length) {choice : SymbolicName} (hb : p.Ready choice)
    {members : Translator (List Member)} (hm : Fills tree (n.head.path.length + 1) n.children members) :
    Keeps tree todo done p (caseTypeOf n.head choice members) fun s t => t.Asked .case (ownerOf n.head) s := by
  have howns : tree.Owns (ownerOf n.head) := Tree.owns_node hn (by rw [hk]; rfl)
  unfold caseTypeOf
  refine Keeps.bind (h.keeps_nameFor howns (.type .case)) fun s t ht l hs => ?_
  exact ht.keeps_objectType (r := .case) (by decide) hs.1 (ready_mono h.indexed ht.indexed hb l) hroom hm
    fun q ms hc => .case hn hk hc rfl

end YangDesign.Translate
