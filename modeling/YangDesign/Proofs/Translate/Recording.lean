/-
What a translation records, step by step.

`Recorded W p`: every registered name is the name of a type of one of the nodes in `W`, the definition recorded for it is the
one that `typesFor` has for the node, and what the design holds besides objects has the name of a type. `Follows W p x Q`: from
`p`, if the part `x` of a translation answers, this is still so, and `Q` holds for every namer that has given out all the names
of the state reached. A name that is known is answered without a build, and the answer is the same, so nothing need be said
about which names are known.
-/
import YangDesign.Proofs.Translate.Blueprint

namespace YangDesign.Translate

open Design Instance Schema

variable {α β : Type} {W V : Node → Prop} {p q : Progress}

/-! ## Recorded types -/

/-- a node has a name of its own -/
def Namer.Calls (nm : Namer) (h : Head) : Prop :=
  ∃ s, nm.Gave (ownerOf h) "" s

/-- a child of a node was translated: its kind is one that has a place there, and the member for it has a name -/
structure Rendered (nm : Namer) (c : Node) : Prop where
  native : c.kind.isForeignBelow = false
  named : c.kind.hasMember = true → nm.Calls c.head

/-- a definition is that of a node in a role, for every namer that has given out the names of the state -/
structure Drawn (p : Progress) (x : Node) (r : TypeRole) (d : Definition) : Prop where
  drawn : ∀ nm, p.namer.Grows nm → (r, d) ∈ typesFor nm x
  rendered : r.holdsMembers = true → ∀ c ∈ x.children, Rendered p.namer c

/-- what a registered name stands for, data types and types of identities apart -/
def Entry (W : Node → Prop) (p : Progress) (f : Family) (n : SymbolicName) (e : Option Definition) : Prop :=
  f = .dataType ∨ f = .identity ∨ ∃ x, W x ∧ ∃ r ∈ typeRoles x.kind, r.family = f ∧
    p.namer.Gave (ownerOf x.head) r.text n ∧ ∀ d, e = some d → Drawn p x r d

/-- a name of a type was given out -/
def IsTypeName (p : Progress) (n : SymbolicName) : Prop :=
  ∃ r : TypeRole, ∃ o, p.namer.Gave o r.text n

/-- every registered name is that of a type of a node, and what is no object has the name of a type -/
structure Recorded (W : Node → Prop) (p : Progress) : Prop where
  registered : ∀ f n e, p.registry.entries.find? (f, n) = some e → Entry W p f n e
  emitted : ∀ d ∈ p.document.definitions, d.kind ≠ .object → IsTypeName p d.name

theorem recorded_start (target : String) (namespaces : List Namespace) : Recorded W (.start (.new target namespaces)) where
  registered f n e h := by simp [Progress.start, Registry.empty, Assoc.find?, Assoc.empty, Assoc.findIn] at h
  emitted d h := by simp [Progress.start, ModelDocument.new] at h

theorem Namer.Calls.mono {m n : Namer} {h : Head} (hm : m.Calls h) (g : m.Grows n) : n.Calls h :=
  hm.imp fun _ hs => hs.mono g

theorem Rendered.mono {m n : Namer} {c : Node} (h : Rendered m c) (g : m.Grows n) : Rendered n c :=
  ⟨h.native, fun hk => (h.named hk).mono g⟩

theorem Drawn.mono {x : Node} {r : TypeRole} {d : Definition} (h : Drawn p x r d) (g : p.namer.Grows q.namer) :
    Drawn q x r d :=
  ⟨fun nm hnm => h.drawn nm (g.trans hnm), fun hr c hc => (h.rendered hr c hc).mono g⟩

theorem Entry.mono {f : Family} {n : SymbolicName} {e : Option Definition} (h : Entry W p f n e) (hW : ∀ x, W x → V x)
    (g : p.namer.Grows q.namer) : Entry V q f n e := by
  rcases h with h | h | ⟨x, hx, r, hr, hf, hn, hd⟩
  · exact Or.inl h
  · exact Or.inr (Or.inl h)
  · exact Or.inr (Or.inr ⟨x, hW x hx, r, hr, hf, hn.mono g, fun d he => (hd d he).mono g⟩)

theorem IsTypeName.mono {n : SymbolicName} (h : IsTypeName p n) (g : p.namer.Grows q.namer) : IsTypeName q n := by
  obtain ⟨r, o, hn⟩ := h
  exact ⟨r, o, hn.mono g⟩

theorem Recorded.mono (h : Recorded W p) (hW : ∀ x, W x → V x) : Recorded V p :=
  ⟨fun f n e he => (h.registered f n e he).mono hW (Namer.Grows.refl _), h.emitted⟩

theorem Recorded.same (h : Recorded W p) (hr : q.registry = p.registry) (hd : q.document = p.document)
    (g : p.namer.Grows q.namer) : Recorded W q := by
  refine ⟨fun f n e he => ?_, fun d hmem hk => ?_⟩
  · rw [hr] at he
    exact (h.registered f n e he).mono (fun _ hx => hx) g
  · rw [hd] at hmem
    exact (h.emitted d hmem hk).mono g

theorem Recorded.insert (h : Recorded W p) {f : Family} {n : SymbolicName} {e : Option Definition} (he : Entry W p f n e) :
    Recorded W { p with registry := ⟨p.registry.entries.insert (f, n) e⟩ } := by
  refine ⟨fun f' n' e' hfind => ?_, h.emitted⟩
  change (p.registry.entries.insert (f, n) e).find? (f', n') = some e' at hfind
  rw [Assoc.find?_insert] at hfind
  split at hfind
  · rename_i heq
    cases heq
    cases hfind
    exact he.mono (fun _ hx => hx) (Namer.Grows.refl _)
  · exact (h.registered f' n' e' hfind).mono (fun _ hx => hx) (Namer.Grows.refl _)

theorem Recorded.append (h : Recorded W p) {d : Definition} {doc : ModelDocument} (ha : p.document.append d = some doc)
    (hd : d.kind ≠ .object → IsTypeName p d.name) : Recorded W { p with document := doc } := by
  refine ⟨fun f n e he => (h.registered f n e he).mono (fun _ hx => hx) (Namer.Grows.refl _), fun e he hk => ?_⟩
  rw [ModelDocument.definitions_append ha, Array.mem_push] at he
  rcases he with he | rfl
  · exact h.emitted e he hk
  · exact hd hk

/-! ## Rules -/

/-- an answer keeps the names recorded and satisfies `Q` for every namer that has given out all names -/
def Follows (W : Node → Prop) (p : Progress) (x : Translator α) (Q : Namer → α → Progress → Prop) : Prop :=
  Holds x p (fun a t => Recorded W t ∧ p.namer.Grows t.namer ∧ ∀ nm, t.namer.Grows nm → Q nm a t) fun _ => True

theorem Follows.imp {x : Translator α} {Q Q' : Namer → α → Progress → Prop} (h : Follows W p x Q)
    (hq : ∀ nm a t, t.namer.Grows nm → Q nm a t → Q' nm a t) : Follows W p x Q' :=
  Holds.imp h fun a t ⟨hr, g, ha⟩ => ⟨hr, g, fun nm hnm => hq nm a t hnm (ha nm hnm)⟩

theorem Follows.bind {x : Translator α} {f : α → Translator β} {R : Namer → α → Progress → Prop}
    {Q : Namer → β → Progress → Prop} (h : Follows V p x R)
    (k : ∀ a t, Recorded V t → p.namer.Grows t.namer → (∀ nm, t.namer.Grows nm → R nm a t) →
      Follows W t (f a) fun nm b u => R nm a t → Q nm b u) : Follows W p (x >>= f) Q := by
  refine Holds.bind (Holds.imp h fun a t ⟨hr, g, ha⟩ => ?_)
  exact Holds.imp (k a t hr g ha) fun b u ⟨hr', g', hb⟩ =>
    ⟨hr', g.trans g', fun nm hnm => hb nm hnm (ha nm (g'.trans hnm))⟩

theorem Follows.map {x : Translator α} {f : α → β} {R : Namer → α → Progress → Prop} {Q : Namer → β → Progress → Prop}
    (h : Follows W p x R) (k : ∀ nm a t, R nm a t → Q nm (f a) t) : Follows W p (f <$> x) Q :=
  Holds.map (Holds.imp h fun a t ⟨hr, g, ha⟩ => ⟨hr, g, fun nm hnm => k nm a t (ha nm hnm)⟩)

theorem Recorded.follows_pure (h : Recorded W p) {a : α} {Q : Namer → α → Progress → Prop}
    (hq : ∀ nm, p.namer.Grows nm → Q nm a p) : Follows W p (pure a : Translator α) Q :=
  holds_pure ⟨h, Namer.Grows.refl _, hq⟩

theorem follows_unsupported {cause : Cause} {path : List String} {Q : Namer → α → Progress → Prop} :
    Follows W p (unsupported cause path : Translator α) Q :=
  holds_throw trivial

theorem Recorded.follows_note (h : Recorded W p) (e : Event) :
    Follows W p (note e) fun _ _ t => t.stock = p.stock :=
  holds_modify ⟨h.same rfl rfl (Namer.Grows.refl _), Namer.Grows.refl _, fun _ _ => rfl⟩

/-- a name, which is the one that later namers have -/
theorem Recorded.follows_nameFor (h : Recorded W p) (o : Owner) (role : String) :
    Follows W p (nameFor o role) fun nm n t =>
      n = nm.symbol o role ∧ t.namer.Gave o role n ∧ t.stock = p.stock ∧ t.registry = p.registry := by
  refine holds_nameFor_ok fun n m hr => ?_
  obtain ⟨hgave, hafter, -⟩ := Namer.gave_of_nameFor hr
  have hgrows : p.namer.Grows m := (Namer.grows_see _ _).trans hafter
  exact ⟨h.same rfl rfl hgrows, hgrows, fun nm hnm => ⟨(hgave.mono hnm).spelled, hgave, rfl, rfl⟩⟩

theorem stock_append {doc : ModelDocument} {d : Definition} (h : p.document.append d = some doc) :
    Progress.stock { p with document := doc } = if d.kind = .object then p.stock.add d else p.stock := by
  unfold Progress.stock ModelDocument.ofKind Stock.add
  rw [ModelDocument.definitions_append h, Array.toList_push, List.filter_append]
  by_cases hd : d.kind = .object <;> simp [hd]

/-- an emitted object goes to the stock, an emitted type does not -/
theorem Recorded.follows_emit (h : Recorded W p) (d : Definition) (hd : d.kind ≠ .object → IsTypeName p d.name) :
    Follows W p (emit d) fun _ _ t => t.stock = if d.kind = .object then p.stock.add d else p.stock := by
  unfold emit
  refine Holds.bind (holds_get ?_)
  cases ha : p.document.append d with
  | none => exact holds_throw trivial
  | some doc =>
    refine Holds.bind (holds_modify (Holds.imp ((h.append ha hd).follows_note _) fun _ t ht => ?_))
    obtain ⟨ht, g, hstock⟩ := ht
    exact ⟨ht, g, fun nm hnm => (hstock nm hnm).trans (stock_append ha)⟩

/-- an entry of a list is counted -/
theorem Recorded.follows_nextElement (h : Recorded W p) (list : SymbolicName) :
    Follows W p (nextElement list) fun _ i t => i = p.stock.next list ∧ t.stock = p.stock.count list := by
  unfold nextElement
  refine Holds.bind (holds_get (Holds.bind (holds_modify (holds_pure ?_))))
  exact ⟨h.same rfl rfl (Namer.Grows.refl _), Namer.Grows.refl _, fun _ _ => ⟨rfl, rfl⟩⟩

/-- a registered name: whether it is known or new, it is the answer, and no object is made -/
theorem Recorded.follows_register (h : Recorded W p) {f : Family} {n : SymbolicName} {build : Translator Definition}
    (he : Entry W p f n none)
    (hbuild : ∀ t, Recorded W t → p.namer.Grows t.namer →
      Follows W t build fun _ d u => Entry W u f n (some d) ∧ u.stock = t.stock) :
    Follows W p (register f n build) fun _ m t => m = n ∧ t.stock = p.stock := by
  refine holds_obtain (fun _ => ⟨h, Namer.Grows.refl _, fun _ _ => ⟨rfl, rfl⟩⟩) fun _ => ?_
  have hreserved := h.insert he
  refine Holds.bind (Holds.imp (hreserved.follows_note _) fun _ t ht => ?_)
  obtain ⟨ht, g, hstock⟩ := ht
  refine Holds.imp (hbuild t ht g) fun d u hu => ?_
  obtain ⟨hu, g', hd⟩ := hu
  obtain ⟨hentry, hsame⟩ := hd u.namer (Namer.Grows.refl _)
  refine ⟨hu.insert hentry, g.trans g', fun _ _ => ⟨rfl, ?_⟩⟩
  exact hsame.trans (hstock t.namer (Namer.Grows.refl _))

/-- a registered type of a node -/
theorem Recorded.follows_type (h : Recorded W p) {x : Node} {r : TypeRole} {n : SymbolicName}
    {build : Translator Definition} (hx : W x) (hr : r ∈ typeRoles x.kind) (hn : p.namer.Gave (ownerOf x.head) r.text n)
    (hbuild : ∀ t, Recorded W t → p.namer.Grows t.namer → Follows W t build fun nm d u =>
      n = nm.typeName r x.head → (r, d) ∈ typesFor nm x ∧
        (r.holdsMembers = true → ∀ c ∈ x.children, Rendered nm c) ∧ u.stock = t.stock) :
    Follows W p (register r.family n build) fun _ m t => m = n ∧ t.stock = p.stock := by
  refine h.follows_register (Or.inr (Or.inr ⟨x, hx, r, hr, rfl, hn, fun d hd => by cases hd⟩)) fun t ht g => ?_
  refine Holds.imp (hbuild t ht g) fun d u ⟨hu, g', hd⟩ => ⟨hu, g', fun _ _ => ?_⟩
  have hd : ∀ nm, u.namer.Grows nm → (r, d) ∈ typesFor nm x ∧
      (r.holdsMembers = true → ∀ c ∈ x.children, Rendered nm c) ∧ u.stock = t.stock :=
    fun nm hnm => hd nm hnm ((hn.mono ((g.trans g').trans hnm)).spelled)
  obtain ⟨-, hrendered, hstock⟩ := hd u.namer (Namer.Grows.refl _)
  have hdrawn : Drawn u x r d := ⟨fun nm hnm => (hd nm hnm).1, hrendered⟩
  refine ⟨Or.inr (Or.inr ⟨x, hx, r, hr, rfl, hn.mono (g.trans g'), fun e he => ?_⟩), hstock⟩
  cases he
  exact hdrawn

/-! ## Data types and types of identities -/

theorem Recorded.follows_primitive (h : Recorded W p) (k : Kind) (path : List String) :
    Follows W p (liftM (primitiveType k path) : Translator SymbolicName) fun _ n t =>
      (∃ b, k = .builtIn b ∧ n = builtInName (opcName b)) ∧ t.stock = p.stock := by
  refine holds_lift (fun n hn => ?_) fun _ _ => trivial
  cases k with
  | builtIn b =>
    cases hn
    exact ⟨h, Namer.Grows.refl _, fun _ _ => ⟨⟨b, rfl, rfl⟩, rfl⟩⟩
  | unknown name => cases hn

/-- a definition that is no object, emitted and answered -/
theorem Recorded.follows_emitted (h : Recorded W p) (d : Definition) (hd : d.kind ≠ .object) (hn : IsTypeName p d.name) :
    Follows W p (do emit d; return d : Translator Definition) fun _ e t => e = d ∧ t.stock = p.stock := by
  refine Follows.bind (h.follows_emit d fun _ => hn) fun _ t ht _ _ => ht.follows_pure fun _ _ hstock => ⟨rfl, ?_⟩
  rw [hstock, if_neg hd]

theorem Recorded.follows_dataTypeUnder (h : Recorded W p) (t : TypeDef) {base : Translator SymbolicName}
    (hbase : ∀ q, Recorded W q → Follows W q base fun _ _ u => u.stock = q.stock) :
    Follows W p (dataTypeUnder t base) fun nm n u =>
      n = nm.symbol (ownerOfType t) TypeRole.dataType.text ∧ u.stock = p.stock := by
  unfold dataTypeUnder
  refine Follows.bind (h.follows_nameFor _ TypeRole.dataType.text) fun n t1 h1 _ hn => ?_
  obtain ⟨-, hgave, -⟩ := hn t1.namer (Namer.Grows.refl _)
  refine Follows.imp (h1.follows_register (Or.inl rfl) fun q hq g => ?_) fun nm m u _ hm hn => ?_
  · refine Follows.bind (hbase q hq) fun b u hu g' _ => ?_
    exact Follows.imp (hu.follows_emitted _ (by simp [Definition.kind, Content.kind]) ⟨_, _, hgave.mono (g.trans g')⟩)
      fun _ _ _ _ he hb => ⟨Or.inl rfl, he.2.trans hb⟩
  · exact ⟨hm.1.trans hn.1, hm.2.trans hn.2.2.1⟩

theorem follows_registerDataType (t : TypeDef) : ∀ {p : Progress}, Recorded W p →
    Follows W p (registerDataType t) fun nm n u =>
      n = nm.symbol (ownerOfType t) TypeRole.dataType.text ∧ u.stock = p.stock := by
  induction t using TypeDef.base_induct with
  | step t ih =>
    intro p h
    obtain ⟨name, path, kind, base, enums, description⟩ := t
    cases base with
    | none =>
      rw [registerDataType]
      exact h.follows_dataTypeUnder _ fun q hq => (hq.follows_primitive kind path).imp fun _ _ _ _ hn => hn.2
    | some b =>
      rw [registerDataType]
      refine h.follows_dataTypeUnder _ fun q hq => ?_
      unfold baseDataType
      split
      · exact hq.follows_pure fun _ _ => rfl
      · split
        · exact (hq.follows_primitive b.kind path).imp fun _ _ _ _ hn => hn.2
        · exact (ih b rfl hq).imp fun _ _ _ _ hn => hn.2

theorem Recorded.follows_dataTypeOf (h : Recorded W p) (t : TypeDef) :
    Follows W p (dataTypeOf t) fun nm n u => n = dataTypeFor nm t ∧ u.stock = p.stock := by
  unfold dataTypeOf
  split
  · rename_i hprimitive
    refine (h.follows_primitive t.kind t.path).imp fun nm n u _ hn => ⟨?_, hn.2⟩
    obtain ⟨⟨b, hb, rfl⟩, -⟩ := hn
    simp [dataTypeFor, hb, hprimitive]
  · rename_i hderived
    refine (follows_registerDataType t h).imp fun nm n u _ hn => ⟨?_, hn.2⟩
    rw [hn.1, dataTypeFor]
    split <;> simp [hderived]

theorem Recorded.follows_translateTypedef (h : Recorded W p) (type : Option TypeDef) :
    Follows W p (translateTypedef type) fun _ _ t => t.stock = p.stock := by
  unfold translateTypedef
  cases type with
  | none => exact h.follows_pure fun _ _ => rfl
  | some t => exact Follows.map (h.follows_dataTypeOf t) fun _ _ _ ht => ht.2

theorem Recorded.follows_identityTypeUnder (h : Recorded W p) (i : Identity) {base : Translator (Option SymbolicName)}
    (hbase : ∀ q, Recorded W q → Follows W q base fun _ _ u => u.stock = q.stock) :
    Follows W p (identityTypeUnder i base) fun _ _ u => u.stock = p.stock := by
  unfold identityTypeUnder
  refine Follows.bind (h.follows_nameFor _ TypeRole.identity.text) fun n t h1 _ hn => ?_
  obtain ⟨-, hgave, -⟩ := hn t.namer (Namer.Grows.refl _)
  refine Follows.imp (Q := fun _ _ u => u.stock = t.stock) ?_ fun _ _ _ _ hu hn => hu.trans hn.2.2.1
  unfold isRegistered
  rw [bind_assoc]
  refine Holds.bind (holds_get ?_)
  rw [pure_bind]
  split
  · exact h1.follows_pure fun _ _ => rfl
  · dsimp only
    split
    · exact Holds.bind (holds_throw trivial)
    · refine Follows.imp (h1.follows_register (Or.inr (Or.inl rfl)) fun q hq g => ?_) fun _ _ _ _ hm => hm.2
      refine Follows.bind (hbase q hq) fun b u hu g' _ => ?_
      exact Follows.imp (hu.follows_emitted _ (by simp [Definition.kind, Content.kind]) ⟨_, _, hgave.mono (g.trans g')⟩)
        fun _ _ _ _ he hb => ⟨Or.inr (Or.inl rfl), he.2.trans hb⟩

theorem follows_translateIdentityWithin (tree : Tree) (steps : Nat) : ∀ {p : Progress} {i : Identity}, Recorded W p →
    Follows W p (translateIdentityWithin tree steps i) fun _ _ u => u.stock = p.stock := by
  have hbase : ∀ (i : Identity) {next : Identity → Translator SymbolicName},
      (∀ j q, Recorded W q → Follows W q (next j) fun _ _ u => u.stock = q.stock) → ∀ q, Recorded W q →
      Follows W q (baseIdentityType tree i next) fun _ _ u => u.stock = q.stock := by
    intro i next hnext q hq
    unfold baseIdentityType
    split
    · exact hq.follows_pure fun _ _ => rfl
    · split
      · exact follows_unsupported
      · exact Follows.map (hnext _ q hq) fun _ _ _ hu => hu
  induction steps with
  | zero => exact fun h => h.follows_identityTypeUnder _ (hbase _ fun _ _ _ => follows_unsupported)
  | succ steps ih => exact fun h => h.follows_identityTypeUnder _ (hbase _ fun _ _ hq => ih hq)

end YangDesign.Translate
