/-
The invariant of a translation.

A translation works on jobs: types in a role and objects, each for an owner. `Sound tree todo done p` describes the state `p`
while the definitions of the jobs `todo` are still to be emitted and those of `done` are emitted but not yet recorded. A
registered name is recorded with a definition of the design, or one of these jobs; a name in the design comes from a job that
was begun, and no job of `todo` has its name there; and every type reference is built in or goes to an earlier definition,
unless it is the base of a source (`Loose`).

The rules at the end say what naming a node, registering a type and emitting a definition do to the invariant.
-/
import YangDesign.Proofs.Design.Positions
import YangDesign.Proofs.Translate.Build
import YangDesign.Proofs.Translate.Sources

namespace YangDesign.Translate

open Design Schema

/-! ## Jobs -/

/-- a definition to be made: its purpose, and the owner of its name -/
structure Job where
  purpose : Purpose
  owner : Owner
  deriving DecidableEq, Repr

/-- the job of a type -/
def typeJob (r : TypeRole) (o : Owner) : Job :=
  ⟨.type r, o⟩

/-- the job of a source -/
def sourceJob (s : Source) : Job :=
  typeJob s.role s.owner

namespace Progress

/-- the name of a job was given out -/
def Named (p : Progress) (x : Job) (n : SymbolicName) : Prop :=
  p.namer.Gave x.owner x.purpose.text n

/-- a type is registered under a name -/
structure Asked (p : Progress) (r : TypeRole) (o : Owner) (n : SymbolicName) : Prop where
  named : p.Named (typeJob r o) n
  registered : p.registry.isRegistered r.family n = true

/-- a job was begun: the type is registered, the entry is counted; an object of a container goes with the type -/
def Begun (p : Progress) (x : Job) : Prop :=
  match x.purpose with
  | .type r => ∃ n, p.Asked r x.owner n
  | .container => ∃ n, p.Asked .container x.owner n
  | .element i => ∃ n, p.namer.Gave x.owner "" n ∧ i < (p.counters.find? n).getD 0

/-- a name that a definition may refer to from now on -/
def Ready (p : Progress) (n : SymbolicName) : Prop :=
  IsStandard n ∨ p.document.contains n = true

/-- `p'` has all that `p` has -/
structure Later (p p' : Progress) : Prop where
  namer : p.namer.Grows p'.namer
  document : p.document.Grows p'.document
  registered : ∀ f n, p.registry.isRegistered f n = true → p'.registry.isRegistered f n = true
  journal : p.journal <+: p'.journal

theorem Later.refl (p : Progress) : p.Later p :=
  ⟨Namer.Grows.refl _, ModelDocument.grows_refl _, fun _ _ h => h, List.prefix_refl _⟩

theorem Later.trans {a b c : Progress} (h : a.Later b) (k : b.Later c) : a.Later c :=
  ⟨h.namer.trans k.namer, h.document.trans k.document, fun f n hn => k.registered f n (h.registered f n hn),
    h.journal.trans k.journal⟩

/-- a name that is reserved or recorded leaves the others registered -/
theorem later_insert (p : Progress) (f : Family) (n : SymbolicName) (d : Option Definition) :
    p.Later { p with registry := ⟨p.registry.entries.insert (f, n) d⟩ } := by
  refine ⟨Namer.Grows.refl _, ModelDocument.grows_refl _, fun f' n' h => ?_, List.prefix_refl _⟩
  rw [isRegistered_insert, h, Bool.or_true]

theorem Named.mono {p p' : Progress} {x : Job} {n : SymbolicName} (h : p.Named x n) (l : p.Later p') : p'.Named x n :=
  Namer.Gave.mono h l.namer

/-- a name belongs to one job -/
theorem Named.job_unique {p : Progress} {x y : Job} {n : SymbolicName} (h : p.Named x n) (k : p.Named y n) : x = y := by
  obtain ⟨q, o⟩ := x
  obtain ⟨q', o'⟩ := y
  obtain rfl : o = o' := h.owner_unique k
  obtain rfl : q = q' := Namer.Gave.purpose_unique h k
  rfl

theorem Named.name_unique {p : Progress} {x : Job} {n m : SymbolicName} (h : p.Named x n) (k : p.Named x m) : n = m :=
  Namer.Gave.name_unique h k

theorem Asked.mono {p p' : Progress} {r : TypeRole} {o : Owner} {n : SymbolicName} (h : p.Asked r o n) (l : p.Later p') :
    p'.Asked r o n :=
  ⟨h.named.mono l, l.registered _ _ h.registered⟩

end Progress

open Progress

/-! ## What definitions are made of -/

theorem isStandard_opcName (b : BuiltIn) : IsStandard (builtInName (opcName b)) := by
  refine isStandard_builtInName ?_
  cases b <;> decide

/-- the data type that stands for a type: a built-in one, or its own -/
def TypedAs (p : Progress) (t : TypeDef) (n : SymbolicName) : Prop :=
  if t.isPrimitive then ∃ b, t.kind = .builtIn b ∧ n = builtInName (opcName b) else p.Asked .dataType (ownerOfType t) n

/-- the data type that the data type of a type derives from -/
def DataBase (p : Progress) (t : TypeDef) (n : SymbolicName) : Prop :=
  match t.derivedBase? with
  | some b => p.Asked .dataType (ownerOfType b) n
  | none => ∃ b, t.kind = .builtIn b ∧ n = builtInName (opcName b)

/-- the type that the type of an identity derives from -/
def IdentityBase (tree : Tree) (p : Progress) (i : Identity) (n : Option SymbolicName) : Prop :=
  match tree.baseOf? i with
  | some j => ∃ m, n = some m ∧ p.Asked .identity (ownerOf j.head) m
  | none => n = none

/-- a node has been translated: the types for it are registered -/
def Covered (p : Progress) (n : Node) : Prop :=
  match n.kind with
  | .container => ∃ s, p.Asked .container (ownerOf n.head) s
  | .list _ => (∃ s, p.Asked .list (ownerOf n.head) s) ∧ (∃ s, p.Asked .element (ownerOf n.head) s) ∧
      ∃ s, p.Asked .reference (ownerOf n.head) s
  | .leaf _ => ∃ s, p.Asked .leaf (ownerOf n.head) s
  | .leafList _ => ∃ s, p.Asked .leafList (ownerOf n.head) s
  | .choice => ∃ s, p.Asked .choice (ownerOf n.head) s
  | .case => ∃ s, p.Asked .case (ownerOf n.head) s
  | .typedef type => ∀ t, type = some t → ∃ s, TypedAs p t s
  | .identity _ => True
  | .other .. => True

/-- what the definition of a type in a role is made from -/
inductive Made (tree : Tree) (p : Progress) : TypeRole → Owner → Definition → Prop where
  | dataType {t : TypeDef} {b : SymbolicName} {d : Definition} : tree.Makes (.type t) → DataBase p t b →
    d.content = .dataType (some b) (fieldsOf t) → Made tree p .dataType (ownerOfType t) d
  | identity {i : Identity} {b : Option SymbolicName} {d : Definition} : i ∈ tree.topIdentities → IdentityBase tree p i b →
    d.content = .objectType b false [] → Made tree p .identity (ownerOf i.head) d
  | leaf {n : Node} {t : TypeDef} {s : SymbolicName} {d : Definition} : n ∈ tree.nodes → n.kind = .leaf (some t) →
    TypedAs p t s → d.content = .variableType (some (builtInName "BaseDataVariableType")) (some s) .scalar →
    Made tree p .leaf (ownerOf n.head) d
  | leafList {n : Node} {t : TypeDef} {s : SymbolicName} {d : Definition} : n ∈ tree.nodes →
    n.kind = .leafList (some t) → TypedAs p t s →
    d.content = .variableType (some (builtInName "BaseDataVariableType")) (some s) .array →
    Made tree p .leafList (ownerOf n.head) d
  | container {n : Node} {ms : List Member} {d : Definition} : n ∈ tree.nodes → n.kind = .container →
    (∀ c ∈ n.children, Covered p c) → d.content = .objectType (some baseObjectType) false ms →
    Made tree p .container (ownerOf n.head) d
  | list {n : Node} {keys : List String} {d : Definition} : n ∈ tree.nodes → n.kind = .list keys →
    d.content = .objectType (some baseObjectType) false [] → Made tree p .list (ownerOf n.head) d
  | element {n : Node} {keys : List String} {ms : List Member} {d : Definition} : n ∈ tree.nodes → n.kind = .list keys →
    (∀ c ∈ n.children, Covered p c) → d.content = .objectType (some baseObjectType) false ms →
    Made tree p .element (ownerOf n.head) d
  | reference {n : Node} {keys : List String} {d : Definition} : n ∈ tree.nodes → n.kind = .list keys →
    d.content = .referenceType (some (builtInName "HasComponent")) → Made tree p .reference (ownerOf n.head) d
  | choice {n : Node} {d : Definition} : n ∈ tree.nodes → n.kind = .choice → (∀ c ∈ n.children, Covered p c) →
    d.content = .objectType (some baseObjectType) true [] → Made tree p .choice (ownerOf n.head) d
  | case {n : Node} {b : SymbolicName} {ms : List Member} {d : Definition} : n ∈ tree.nodes → n.kind = .case →
    (∀ c ∈ n.children, Covered p c) → d.content = .objectType (some b) false ms → Made tree p .case (ownerOf n.head) d

section Mono

variable {tree : Tree} {p p' : Progress}

theorem TypedAs.mono {t : TypeDef} {n : SymbolicName} (h : TypedAs p t n) (l : p.Later p') : TypedAs p' t n := by
  unfold TypedAs at h ⊢
  split at h
  · rename_i hp
    rw [if_pos hp]
    exact h
  · rename_i hp
    rw [if_neg hp]
    exact h.mono l

theorem DataBase.mono {t : TypeDef} {n : SymbolicName} (h : DataBase p t n) (l : p.Later p') : DataBase p' t n := by
  unfold DataBase at h ⊢
  split at h
  · exact h.mono l
  · exact h

theorem IdentityBase.mono {i : Identity} {n : Option SymbolicName} (h : IdentityBase tree p i n) (l : p.Later p') :
    IdentityBase tree p' i n := by
  unfold IdentityBase at h ⊢
  split at h
  · obtain ⟨m, hm, ha⟩ := h
    exact ⟨m, hm, ha.mono l⟩
  · exact h

theorem Covered.mono {n : Node} (h : Covered p n) (l : p.Later p') : Covered p' n := by
  unfold Covered at h ⊢
  split at h
  case h_2 => exact ⟨h.1.imp fun _ a => a.mono l, h.2.1.imp fun _ a => a.mono l, h.2.2.imp fun _ a => a.mono l⟩
  case h_7 => exact fun t ht => (h t ht).imp fun _ a => a.mono l
  case h_8 | h_9 => trivial
  all_goals exact h.imp fun _ a => a.mono l

theorem Made.mono {r : TypeRole} {o : Owner} {d : Definition} (h : Made tree p r o d) (l : p.Later p') :
    Made tree p' r o d := by
  cases h with
  | dataType ht hb hd => exact .dataType ht (hb.mono l) hd
  | identity hi hb hd => exact .identity hi (hb.mono l) hd
  | leaf hn hk ht hd => exact .leaf hn hk (ht.mono l) hd
  | leafList hn hk ht hd => exact .leafList hn hk (ht.mono l) hd
  | container hn hk hc hd => exact .container hn hk (fun c h => (hc c h).mono l) hd
  | list hn hk hd => exact .list hn hk hd
  | element hn hk hc hd => exact .element hn hk (fun c h => (hc c h).mono l) hd
  | reference hn hk hd => exact .reference hn hk hd
  | choice hn hk hc hd => exact .choice hn hk (fun c h => (hc c h).mono l) hd
  | case hn hk hc hd => exact .case hn hk (fun c h => (hc c h).mono l) hd

end Mono

/-! ## The invariant -/

/-- a base that its definition does not wait for: it derives from a source whose definition is still to be emitted, which
happens only where the tree is knotted, or from itself -/
structure Loose (tree : Tree) (todo : List Job) (p : Progress) (d : Definition) (n : SymbolicName) (u v : Source) :
    Prop where
  makes : tree.Makes u
  under : tree.Under u v
  asked : p.Asked u.role u.owner d.name
  base : p.Asked v.role v.owner n
  loops : v.owner = u.owner ∨
    tree.Knot v.role u.owner v.owner ∧ (p.document.Derives n d.name ∨ sourceJob v ∈ todo)

/-- a type reference of the definition at a position: built in, to an earlier definition, or the base of a source -/
def Placed (tree : Tree) (todo : List Job) (p : Progress) (i : Nat) (d : Definition) (t : Target) : Prop :=
  IsStandard t.1 ∨ (∃ j < i, p.document.indexOf? t.1 = some j) ∨
    t.2 = .baseType ∧ ∃ u v, Loose tree todo p d t.1 u v

/-- what a definition made for a job may refer to: names that are ready, and as its base a source that is still to be
emitted -/
def Fit (tree : Tree) (todo : List Job) (p : Progress) (x : Job) (t : Target) : Prop :=
  p.Ready t.1 ∨ t.2 = .baseType ∧ ∃ u v, sourceJob u = x ∧ tree.Makes u ∧ tree.Under u v ∧ p.Asked v.role v.owner t.1 ∧
    (v.owner = u.owner ∨ tree.Knot v.role u.owner v.owner ∧ sourceJob v ∈ todo)

/-- the definition of a source reaches those that derive from it already -/
def Closes (p : Progress) (x : Job) (d : Definition) : Prop :=
  ∀ v, sourceJob v = x → ∀ (i : Nat) (e : Definition), p.document.definitions[i]? = some e →
    (d.name, Role.baseType) ∈ e.targets → ∃ b, d.base? = some b ∧ p.document.Derives b e.name

/-- the invariant of a translation of a tree -/
structure Sound (tree : Tree) (todo done : List Job) (p : Progress) : Prop where
  indexed : p.document.Indexed
  namer : p.namer.Sound
  owners : ∀ name o, p.namer.owners.find? name = some o → tree.Owns o
  requested : ∀ f n e, p.registry.entries.find? (f, n) = some e → ∃ r o, r.family = f ∧ p.Named (typeJob r o) n ∧
    match e with
    | none => typeJob r o ∈ todo ++ done
    | some d => p.document.get? n = some d ∧ Made tree p r o d
  begun : ∀ x ∈ todo, x.purpose ≠ .container → p.Begun x
  fresh : ∀ x ∈ todo, ∀ n, p.Named x n → p.document.contains n = false
  emitted : ∀ x ∈ done, ∃ n, p.Named x n ∧ p.document.contains n = true
  known : ∀ n, p.document.contains n = true → ∃ x, p.Named x n ∧ p.Begun x
  placed : ∀ (i : Nat) (d : Definition), p.document.definitions[i]? = some d → ∀ t ∈ d.targets, Placed tree todo p i d t
  nodup : todo.Nodup

section Rules

variable {tree : Tree} {todo done : List Job} {p : Progress}

theorem sound_start (tree : Tree) (target : String) (namespaces : List Namespace) :
    Sound tree [] [] (.start (.new target namespaces)) where
  indexed := ModelDocument.indexed_new target namespaces
  namer := Namer.sound_new target
  owners name o h := by simp [start, Namer.new, Assoc.find?, Assoc.empty, Assoc.findIn] at h
  requested f n e h := by simp [start, Registry.empty, Assoc.find?, Assoc.empty, Assoc.findIn] at h
  begun x h := by simp at h
  fresh x h := by simp at h
  emitted x h := by simp at h
  known n h := by
    simp [start, ModelDocument.new, ModelDocument.contains, Assoc.contains, Assoc.find?, Assoc.empty, Assoc.findIn] at h
  placed i d h := by simp [start, ModelDocument.new] at h
  nodup := List.nodup_nil

/-- a registered type that is not still to be emitted is in the design -/
theorem Sound.contains_of_asked (h : Sound tree todo done p) {r : TypeRole} {o : Owner} {n : SymbolicName}
    (ha : p.Asked r o n) (hx : typeJob r o ∉ todo) : p.document.contains n = true := by
  obtain ⟨e, he⟩ := Option.isSome_iff_exists.1 ha.registered
  obtain ⟨r', o', -, hn, hm⟩ := h.requested _ _ _ he
  have hjob : typeJob r' o' = typeJob r o := hn.job_unique ha.named
  cases e with
  | none =>
    rcases List.mem_append.1 hm with hm | hm
    · exact absurd (hjob ▸ hm) hx
    · obtain ⟨m, hn', hc⟩ := h.emitted _ hm
      exact hn.name_unique hn' ▸ hc
  | some d => exact ModelDocument.Indexed.contains_of_get? hm.1

theorem Sound.not_contains (h : Sound tree todo done p) {x : Job} {n : SymbolicName} (hn : p.Named x n)
    (hx : ¬ p.Begun x) : p.document.contains n = false := by
  by_contra hc
  rw [Bool.not_eq_false] at hc
  obtain ⟨y, hy, hb⟩ := h.known n hc
  rw [hn.job_unique hy] at hx
  exact hx hb

theorem Sound.not_mem (h : Sound tree todo done p) {x : Job} (hk : x.purpose ≠ .container) (hx : ¬ p.Begun x) :
    x ∉ todo :=
  fun hm => hx (h.begun x hm hk)

theorem begun_mono {p p' : Progress} {x : Job} (h : p.Begun x) (l : p.Later p')
    (hc : ∀ n, (p.counters.find? n).getD 0 ≤ (p'.counters.find? n).getD 0) : p'.Begun x := by
  unfold Begun at h ⊢
  split at h
  · exact h.imp fun _ a => a.mono l
  · exact h.imp fun _ a => a.mono l
  · obtain ⟨n, hg, hi⟩ := h
    exact ⟨n, hg.mono l.namer, lt_of_lt_of_le hi (hc n)⟩

theorem Placed.mono {p p' : Progress} {todo todo' : List Job} {i : Nat} {d : Definition} {t : Target}
    (h : Placed tree todo p i d t) (l : p.Later p') (hi : p.document.Indexed) (hi' : p'.document.Indexed)
    (ht : ∀ x ∈ todo, x ∈ todo') : Placed tree todo' p' i d t := by
  rcases h with h | ⟨j, hj, hn⟩ | ⟨hr, u, v, hl⟩
  · exact Or.inl h
  · exact Or.inr (Or.inl ⟨j, hj, l.document.indexOf? hi hi' hn⟩)
  · refine Or.inr (Or.inr ⟨hr, u, v, hl.makes, hl.under, hl.asked.mono l, hl.base.mono l, ?_⟩)
    rcases hl.loops with he | ⟨hk, hd | hm⟩
    · exact Or.inl he
    · exact Or.inr ⟨hk, Or.inl (l.document.derives hi hi' hd)⟩
    · exact Or.inr ⟨hk, Or.inr (ht _ hm)⟩

/-- a state with the same design and the same registry, in which more names may be given out and more entries counted -/
theorem Sound.same (h : Sound tree todo done p) {p' : Progress} (hd : p'.document = p.document)
    (hr : p'.registry = p.registry) (hg : p.namer.Grows p'.namer) (hs : p'.namer.Sound)
    (ho : ∀ name o, p'.namer.owners.find? name = some o → tree.Owns o)
    (hc : ∀ n, (p.counters.find? n).getD 0 ≤ (p'.counters.find? n).getD 0) (hj : p.journal <+: p'.journal) :
    Sound tree todo done p' ∧ p.Later p' := by
  have l : p.Later p' := ⟨hg, hd ▸ ModelDocument.grows_refl _, fun f n hn => by rw [hr]; exact hn, hj⟩
  have hi : p'.document.Indexed := hd ▸ h.indexed
  refine ⟨⟨hi, hs, ho, ?_, ?_, ?_, ?_, ?_, ?_, h.nodup⟩, l⟩
  · intro f n e he
    rw [hr] at he
    obtain ⟨r, o, hf, hn, hm⟩ := h.requested f n e he
    refine ⟨r, o, hf, hn.mono l, ?_⟩
    cases e with
    | none => exact hm
    | some d => exact ⟨hd ▸ hm.1, hm.2.mono l⟩
  · exact fun x hx hk => begun_mono (h.begun x hx hk) l hc
  · intro x hx n hn
    rw [hd]
    by_contra hcon
    rw [Bool.not_eq_false] at hcon
    obtain ⟨y, hy, -⟩ := h.known n hcon
    obtain rfl := (hy.mono l).job_unique hn
    rw [h.fresh _ hx n hy] at hcon
    cases hcon
  · intro x hx
    obtain ⟨n, hn, hcon⟩ := h.emitted x hx
    exact ⟨n, hn.mono l, hd ▸ hcon⟩
  · intro n hn
    rw [hd] at hn
    obtain ⟨x, hx, hb⟩ := h.known n hn
    exact ⟨x, hx.mono l, begun_mono hb l hc⟩
  · intro i d hdef t ht
    rw [hd] at hdef
    exact (h.placed i d hdef t ht).mono l h.indexed hi fun _ hx => hx

/-- a type is registered: it is still to be emitted -/
theorem Sound.reserve (h : Sound tree todo done p) {r : TypeRole} {o : Owner} {n : SymbolicName}
    (hn : p.Named (typeJob r o) n) (hr : p.registry.isRegistered r.family n = false) :
    let p' : Progress := { p with registry := p.registry.reserve r.family n }
    Sound tree (typeJob r o :: todo) done p' ∧ p.Later p' ∧ p'.Asked r o n := by
  intro p'
  have hfind : ∀ k, p'.registry.entries.find? k = if (r.family, n) = k then some none else p.registry.entries.find? k :=
    fun k => Assoc.find?_insert _ _ _ _
  have hnone : p.registry.entries.find? (r.family, n) = none := by
    rw [Registry.isRegistered, Assoc.contains, Option.isSome_eq_false_iff, Option.isNone_iff_eq_none] at hr
    exact hr
  have l : p.Later p' := later_insert p r.family n _
  have ha : p'.Asked r o n := by
    refine ⟨hn.mono l, ?_⟩
    rw [Registry.isRegistered, Assoc.contains, hfind, if_pos rfl]
    rfl
  have hnew : ¬ p.Begun (typeJob r o) := by
    rintro ⟨m, hm⟩
    have := hm.registered
    rw [← hn.name_unique hm.named, hr] at this
    cases this
  refine ⟨⟨h.indexed, h.namer, h.owners, ?_, ?_, ?_, ?_, ?_, ?_, ?_⟩, l, ha⟩
  · intro f m e he
    rw [hfind] at he
    split at he
    · rename_i heq
      cases heq
      cases he
      exact ⟨r, o, rfl, hn.mono l, List.mem_cons_self⟩
    · obtain ⟨r', o', hf, hn', hm⟩ := h.requested f m e he
      refine ⟨r', o', hf, hn'.mono l, ?_⟩
      cases e with
      | none => exact List.mem_cons_of_mem _ hm
      | some d => exact ⟨hm.1, hm.2.mono l⟩
  · intro x hx hk
    rcases List.mem_cons.1 hx with rfl | hx
    · exact ⟨n, ha⟩
    · exact begun_mono (h.begun x hx hk) l fun _ => le_refl _
  · intro x hx m hm
    rcases List.mem_cons.1 hx with rfl | hx
    · exact h.not_contains hm hnew
    · exact h.fresh x hx m hm
  · exact h.emitted
  · intro m hm
    obtain ⟨x, hx, hb⟩ := h.known m hm
    exact ⟨x, hx.mono l, begun_mono hb l fun _ => le_refl _⟩
  · exact fun i d hd t ht => (h.placed i d hd t ht).mono l h.indexed h.indexed fun _ hx => List.mem_cons_of_mem _ hx
  · exact List.nodup_cons.2 ⟨h.not_mem (by simp [typeJob]) hnew, h.nodup⟩

/-- one more job whose name the design does not hold -/
theorem Sound.push (h : Sound tree todo done p) {x : Job} (hx : x ∉ todo) (hb : x.purpose ≠ .container → p.Begun x)
    (hf : ∀ n, p.Named x n → p.document.contains n = false) : Sound tree (x :: todo) done p := by
  refine { h with requested := ?_, begun := ?_, fresh := ?_, placed := ?_, nodup := ?_ }
  · intro f n e he
    obtain ⟨r, o', hf, hn, hm⟩ := h.requested f n e he
    refine ⟨r, o', hf, hn, ?_⟩
    cases e with
    | none => exact List.mem_cons_of_mem _ hm
    | some d => exact hm
  · exact List.forall_mem_cons.2 ⟨hb, h.begun⟩
  · exact List.forall_mem_cons.2 ⟨hf, h.fresh⟩
  · exact fun i d hd t ht =>
      (h.placed i d hd t ht).mono (Later.refl p) h.indexed h.indexed fun _ hx => List.mem_cons_of_mem _ hx
  · exact List.nodup_cons.2 ⟨hx, h.nodup⟩

/-- an entry of a list is counted: its object is still to be emitted -/
theorem Sound.count (h : Sound tree todo done p) {o : Owner} {list : SymbolicName} (hg : p.namer.Gave o "" list) :
    let i := (p.counters.find? list).getD 0
    let p' : Progress := { p with counters := p.counters.insert list (i + 1) }
    Sound tree (⟨.element i, o⟩ :: todo) done p' ∧ p.Later p' := by
  intro i p'
  have hfind : ∀ n, p'.counters.find? n = if list = n then some (i + 1) else p.counters.find? n :=
    fun n => Assoc.find?_insert _ _ _ _
  have hc : ∀ n, (p.counters.find? n).getD 0 ≤ (p'.counters.find? n).getD 0 := by
    intro n
    rw [hfind]
    split
    · rename_i heq
      subst heq
      exact Nat.le_succ i
    · exact le_refl _
  have hnew : ¬ p.Begun ⟨.element i, o⟩ := by
    rintro ⟨n, hn, hi⟩
    rw [← hg.name_unique hn] at hi
    exact lt_irrefl _ hi
  have hb : p'.Begun ⟨.element i, o⟩ := ⟨list, hg, by rw [hfind, if_pos rfl]; exact Nat.lt_succ_self i⟩
  have hs : Sound tree todo done p' ∧ p.Later p' :=
    h.same rfl rfl (Namer.Grows.refl _) h.namer h.owners hc (List.prefix_refl _)
  obtain ⟨h', l⟩ := hs
  exact ⟨h'.push (h.not_mem (by simp) hnew) (fun _ => hb) fun n hn => h.not_contains hn hnew, l⟩

theorem Sound.emit {x : Job} (h : Sound tree (x :: todo) done p) {d : Definition} {doc : ModelDocument}
    (hn : p.Named x d.name) (hb : p.Begun x) (ha : p.document.append d = some doc)
    (ht : ∀ t ∈ d.targets, Fit tree todo p x t) (hclose : Closes p x d) :
    let p' : Progress := { p with document := doc }
    Sound tree todo (x :: done) p' ∧ p.Later p' ∧ doc.get? d.name = some d := by
  intro p'
  have hgrows : p.document.Grows doc := ModelDocument.grows_append ha
  have hi : doc.Indexed := h.indexed.append ha
  have l : p.Later p' := ⟨Namer.Grows.refl _, hgrows, fun _ _ hf => hf, List.prefix_refl _⟩
  have hlast : doc.definitions[p.document.definitions.size]? = some d := by
    rw [ModelDocument.definitions_append ha]
    simp
  have hget : doc.get? d.name = some d := hi.get?_eq_some_iff.2 ⟨_, hlast, rfl⟩
  have hcontains : doc.contains d.name = true := ModelDocument.Indexed.contains_of_get? hget
  have hmono : ∀ m, p.document.contains m = true → doc.contains m = true := fun m => hgrows.contains h.indexed hi
  obtain ⟨hx, hnodup⟩ := List.nodup_cons.1 h.nodup
  refine ⟨⟨hi, h.namer, h.owners, ?_, ?_, ?_, ?_, ?_, ?_, hnodup⟩, l, hget⟩
  · intro f m e he
    obtain ⟨r, o, hf, hm, hr⟩ := h.requested f m e he
    refine ⟨r, o, hf, hm, ?_⟩
    cases e with
    | none => exact List.perm_middle.symm.subset hr
    | some e => exact ⟨hgrows.get? h.indexed hi hr.1, hr.2.mono l⟩
  · exact fun y hy hk => begun_mono (h.begun y (List.mem_cons_of_mem _ hy) hk) l fun _ => le_refl _
  · intro y hy m hm
    have hne : d.name ≠ m := by
      rintro rfl
      exact hx (hn.job_unique hm ▸ hy)
    rw [ModelDocument.contains_append ha, h.fresh y (List.mem_cons_of_mem _ hy) m hm, decide_eq_false hne]
    rfl
  · intro y hy
    rcases List.mem_cons.1 hy with rfl | hy
    · exact ⟨d.name, hn, hcontains⟩
    · exact (h.emitted y hy).imp fun m hm => ⟨hm.1, hmono m hm.2⟩
  · intro m hm
    rw [ModelDocument.contains_append ha, Bool.or_eq_true, decide_eq_true_eq] at hm
    rcases hm with rfl | hm
    · exact ⟨x, hn, begun_mono hb l fun _ => le_refl _⟩
    · obtain ⟨y, hy, hyb⟩ := h.known m hm
      exact ⟨y, hy, begun_mono hyb l fun _ => le_refl _⟩
  · intro i e he t hte
    rw [ModelDocument.definitions_append ha, Array.getElem?_push] at he
    split at he
    · -- the new definition
      rename_i hsize
      subst hsize
      cases he
      rcases ht t hte with (hbuilt | hc) | ⟨hrole, u, v, hjob, hu, huv, hv, hloop⟩
      · exact Or.inl hbuilt
      · obtain ⟨j, hj⟩ := ModelDocument.contains_iff.1 hc
        obtain ⟨e, he, -⟩ := Option.map_eq_some_iff.1 ((h.indexed _ _).1 hj)
        exact Or.inr (Or.inl ⟨j, (Array.getElem?_eq_some_iff.1 he).1, hgrows.indexOf? h.indexed hi hj⟩)
      · subst hjob
        obtain ⟨m, hm⟩ := hb
        have hask : p.Asked u.role u.owner d.name := hm.named.name_unique hn ▸ hm
        refine Or.inr (Or.inr ⟨hrole, u, v, hu, huv, hask.mono l, hv.mono l, ?_⟩)
        exact hloop.imp id fun hk => ⟨hk.1, Or.inr hk.2⟩
    · -- a definition that was there: the job that is done may have been the one its base waited for
      rcases h.placed i e he t hte with hbuilt | ⟨j, hj, hm⟩ | ⟨hrole, u, v, hl⟩
      · exact Or.inl hbuilt
      · exact Or.inr (Or.inl ⟨j, hj, hgrows.indexOf? h.indexed hi hm⟩)
      · have hnext : v.owner = u.owner ∨ tree.Knot v.role u.owner v.owner ∧
            (doc.Derives t.1 e.name ∨ sourceJob v ∈ todo) := by
          rcases hl.loops with ho | ⟨hk, hd | hm⟩
          · exact Or.inl ho
          · exact Or.inr ⟨hk, Or.inl (hgrows.derives h.indexed hi hd)⟩
          · rcases List.mem_cons.1 hm with hv | hm
            · have hname : d.name = t.1 := (hv ▸ hn).name_unique hl.base.named
              have htarget : (d.name, Role.baseType) ∈ e.targets := by
                rw [hname, ← hrole]
                exact hte
              obtain ⟨b, hbase, hder⟩ := hclose v hv i e he htarget
              refine Or.inr ⟨hk, Or.inl ?_⟩
              rw [← hname]
              exact Relation.ReflTransGen.head ⟨d, hget, hbase⟩ (hgrows.derives h.indexed hi hder)
            · exact Or.inr ⟨hk, Or.inr hm⟩
        exact Or.inr (Or.inr ⟨hrole, u, v, hl.makes, hl.under, hl.asked.mono l, hl.base.mono l, hnext⟩)

/-- an emitted type is recorded -/
theorem Sound.record {r : TypeRole} {o : Owner} (h : Sound tree todo (typeJob r o :: done) p) {n : SymbolicName}
    {d : Definition} (ha : p.Asked r o n) (hd : p.document.get? n = some d) (hm : Made tree p r o d) :
    let p' : Progress := { p with registry := p.registry.record r.family n d }
    Sound tree todo done p' ∧ p.Later p' := by
  intro p'
  have hfind : ∀ k, p'.registry.entries.find? k =
      if (r.family, n) = k then some (some d) else p.registry.entries.find? k :=
    fun k => Assoc.find?_insert _ _ _ _
  have l : p.Later p' := later_insert p r.family n _
  refine ⟨⟨h.indexed, h.namer, h.owners, ?_, ?_, h.fresh, ?_, ?_, ?_, h.nodup⟩, l⟩
  · intro f m e he
    rw [hfind] at he
    split at he
    · rename_i heq
      cases heq
      cases he
      exact ⟨r, o, rfl, ha.named, hd, hm.mono l⟩
    · rename_i hne
      obtain ⟨r', o', hf, hn, hm⟩ := h.requested f m e he
      refine ⟨r', o', hf, hn.mono l, ?_⟩
      cases e with
      | none =>
        rcases List.mem_cons.1 (List.perm_middle.subset hm) with hjob | hm
        · refine absurd ?_ hne
          cases hjob
          rw [hf, ha.named.name_unique hn]
        · exact hm
      | some d => exact ⟨hm.1, hm.2.mono l⟩
  · exact fun x hx hk => begun_mono (h.begun x hx hk) l fun _ => le_refl _
  · exact fun x hx => h.emitted x (List.mem_cons_of_mem _ hx)
  · intro m hm
    obtain ⟨x, hx, hb⟩ := h.known m hm
    exact ⟨x, hx.mono l, begun_mono hb l fun _ => le_refl _⟩
  · exact fun i e he t hte => (h.placed i e he t hte).mono l h.indexed h.indexed fun _ hx => hx

/-- an emitted object is not recorded -/
theorem Sound.drop {x : Job} (h : Sound tree todo (x :: done) p) (hx : ∀ r, x.purpose ≠ .type r) :
    Sound tree todo done p := by
  refine { h with requested := ?_, emitted := fun y hy => h.emitted y (List.mem_cons_of_mem _ hy) }
  intro f n e he
  obtain ⟨r, o, hf, hn, hm⟩ := h.requested f n e he
  refine ⟨r, o, hf, hn, ?_⟩
  cases e with
  | none =>
    rcases List.mem_cons.1 (List.perm_middle.subset hm) with hjob | hm
    · exact absurd (congrArg Job.purpose hjob.symm) (hx r)
    · exact hm
  | some d => exact hm

end Rules

end YangDesign.Translate
