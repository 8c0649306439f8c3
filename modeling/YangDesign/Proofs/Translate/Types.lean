/-
The types that a translation registers without looking at the children of a node: data types, types of identities, variable
types.

Data types and types of identities derive from definitions of their own kind, which are built while the name of the deriving
one is reserved. `Sound.keeps_source` is the rule for both: such a build may meet a reserved name only where the tree is
knotted, and every definition it makes is reached from its own by following base types.
-/
import YangDesign.Proofs.Translate.Steps

namespace YangDesign.Translate

open Design Schema Progress

variable {tree : Tree} {todo done : List Job} {p : Progress}

/-! ## Sources -/

/-- the sources of the kind of `s` whose definitions are still to be emitted lead to `s` -/
def Above (tree : Tree) (todo : List Job) (s : Source) : Prop :=
  ∀ x ∈ todo, x.purpose = .type s.role → ∃ a, tree.Makes a ∧ sourceJob a = x ∧ Relation.ReflTransGen tree.Under a s

/-- following base types from `b` leads to every definition that `q` has and `p` has not -/
def NewBelow (p q : Progress) (b : Option SymbolicName) : Prop :=
  ∀ (i : Nat) (e : Definition), p.document.definitions.size ≤ i → q.document.definitions[i]? = some e →
    ∃ m, b = some m ∧ q.document.Derives m e.name

theorem Above.cons {u v : Source} (h : Above tree todo u) (hu : tree.Makes u) (huv : tree.Under u v) :
    Above tree (sourceJob u :: todo) v := by
  intro x hx hp
  rcases List.mem_cons.1 hx with rfl | hx
  · exact ⟨u, hu, rfl, Relation.ReflTransGen.single huv⟩
  · rw [huv.role] at hp
    obtain ⟨a, ha, hjob, hau⟩ := h x hx hp
    exact ⟨a, ha, hjob, hau.tail huv⟩

theorem newBelow_of_same {q : Progress} {b : Option SymbolicName} (h : q.document = p.document) : NewBelow p q b := by
  intro i e hi he
  rw [h] at he
  exact absurd (Array.getElem?_eq_some_iff.1 he).1 (Nat.not_lt.2 hi)

/-- a base may be referred to, or it is the base of a source -/
theorem Sound.fit_base {u v : Source} (h : Sound tree (sourceJob u :: todo) done p) (hu : tree.Makes u)
    (huv : tree.Under u v) (ha : Above tree todo u) {n : SymbolicName} (hn : p.Asked v.role v.owner n) :
    Fit tree todo p (sourceJob u) (n, .baseType) := by
  by_cases hv : sourceJob v ∈ sourceJob u :: todo
  · refine Or.inr ⟨rfl, u, v, rfl, hu, huv, hn, ?_⟩
    by_cases ho : v.owner = u.owner
    · exact Or.inl ho
    · rcases List.mem_cons.1 hv with hv | hv
      · exact absurd (congrArg Job.owner hv) ho
      · obtain ⟨a, hma, hjob, hau⟩ := ha _ hv (congrArg Purpose.type huv.role)
        exact Or.inr ⟨⟨ho, a, u, v, hma, hau, huv, rfl, congrArg Job.owner hjob, rfl, rfl⟩, hv⟩
  · exact Or.inl (Or.inr (h.contains_of_asked hn hv))

/-- what is built while the name of a source is reserved derives from it once its definition is there -/
theorem Sound.closes_of_base {u : Source} (h : Sound tree todo done p) {d : Definition}
    (hnew : p.registry.isRegistered u.role.family d.name = false) (hn : p.Named (sourceJob u) d.name) {q : Progress}
    (l : p.Later q) (hq : NewBelow p q d.base?) : Closes q (sourceJob u) d := by
  intro v hv i e he ht
  by_cases hi : p.document.definitions.size ≤ i
  · exact hq i e hi he
  · have hlt : i < p.document.definitions.size := Nat.lt_of_not_le hi
    have hp : p.document.definitions[i]? = some p.document.definitions[i] := Array.getElem?_eq_getElem hlt
    have heq : p.document.definitions[i] = e := Option.some.inj ((l.document.definitions i _ hp).symm.trans he)
    rw [heq] at hp
    have hbegun : ¬ p.Begun (sourceJob u) := by
      rintro ⟨m, hm⟩
      have := hm.registered
      rw [← hn.name_unique hm.named, hnew] at this
      cases this
    rcases h.placed i e hp _ ht with hb | ⟨j, -, hj⟩ | ⟨-, u', v', hl⟩
    · exact absurd hb hn.not_isStandard
    · have := h.not_contains hn hbegun
      rw [ModelDocument.contains_iff.2 ⟨j, hj⟩] at this
      cases this
    · have hjob : sourceJob v' = sourceJob u := hl.base.named.job_unique hn
      exact absurd (show p.Begun (sourceJob u) from hjob ▸ ⟨d.name, hl.base⟩) hbegun

theorem newBelow_of_adds {q t : Progress} {d : Definition} (hq : NewBelow p q d.base?) (hiq : q.document.Indexed)
    (hit : t.document.Indexed) (ha : Adds q t d) : NewBelow p t (some d.name) := by
  intro i e hi he
  refine ⟨d.name, rfl, ?_⟩
  rw [ha.definitions, Array.getElem?_push] at he
  split at he
  · cases he
    exact Relation.ReflTransGen.refl
  · obtain ⟨m, hm, hd⟩ := hq i e hi he
    exact Relation.ReflTransGen.head ⟨d, ha.found, hm⟩ (ha.later.document.derives hiq hit hd)

/-- **The rule for sources.** The base is built while the name is reserved, then the definition is emitted. -/
theorem Sound.keeps_source {u : Source} (h : Sound tree todo done p) {n : SymbolicName}
    (hn : p.Named (sourceJob u) n) {β : Type} {base : Translator β} {f : β → Definition} (hname : ∀ b, (f b).name = n)
    (hbase : ∀ t, Sound tree (sourceJob u :: todo) done t → p.Later t → t.document = p.document →
      Keeps tree (sourceJob u :: todo) done t base fun b s =>
        (∀ x ∈ (f b).targets, Fit tree todo s (sourceJob u) x) ∧ NewBelow t s (f b).base? ∧
          Made tree s u.role u.owner (f b)) :
    Keeps tree todo done p (register u.role.family n (do
      let b ← base
      Translate.emit (f b)
      return f b)) fun m s => s.Asked u.role u.owner m ∧ NewBelow p s (some m) := by
  refine h.keeps_register hn (fun ha => ⟨ha, newBelow_of_same rfl⟩) fun t hnew ht l hdoc ha => ?_
  refine Holds.bind (Holds.imp (hbase t ht l hdoc) fun b s hs => ?_)
  obtain ⟨hs, l2, hfit, hbelow, hmade⟩ := hs
  have hbelow' : NewBelow p s (f b).base? := by
    intro i e hi he
    exact hbelow i e (by rw [hdoc]; exact hi) he
  have hclose : Closes s (sourceJob u) (f b) :=
    h.closes_of_base (by rw [hname b]; exact hnew) (by rw [hname b]; exact hn) (l.trans l2) hbelow'
  refine (hs.holds_finish (ha.mono l2) (hname b) hfit hclose hmade).imp fun e q hq => ?_
  obtain ⟨-, hq, hadds⟩ := hq
  refine ⟨hq, l2.trans hadds.later, ha.mono (l2.trans hadds.later), ?_⟩
  have := newBelow_of_adds hbelow' hs.indexed hq.indexed hadds
  rwa [hname b] at this

/-! ## Data types -/

theorem Sound.keeps_primitive (h : Sound tree todo done p) {k : Kind} {b : BuiltIn} (hk : k = .builtIn b)
    (path : List String) :
    Keeps tree todo done p (liftM (primitiveType k path) : Translator SymbolicName) fun n t =>
      n = builtInName (opcName b) ∧ t = p := by
  subst hk
  exact holds_lift (fun n hn => by cases hn; exact ⟨h, Later.refl p, rfl, rfl⟩) fun e he => by cases he

/-- a type with the data type it derives from, given how the base is registered -/
theorem Sound.keeps_dataTypeUnder (h : Sound tree todo done p) {t : TypeDef} (ht : tree.Makes (.type t))
    {base : Translator SymbolicName}
    (hbase : ∀ q, Sound tree (sourceJob (.type t) :: todo) done q →
      Keeps tree (sourceJob (.type t) :: todo) done q base fun n s =>
        Fit tree todo s (sourceJob (.type t)) (n, .baseType) ∧ NewBelow q s (some n) ∧ DataBase s t n) :
    Keeps tree todo done p (dataTypeUnder t base) fun n s =>
      s.Asked .dataType (ownerOfType t) n ∧ NewBelow p s (some n) := by
  unfold dataTypeUnder
  refine Keeps.bind (h.keeps_nameFor ht.owns (.type .dataType)) fun n t1 h1 l1 hn => ?_
  obtain ⟨hn, hdoc, -⟩ := hn
  refine Keeps.imp (h1.keeps_source (u := .type t) (n := n)
    (f := fun b => ⟨plainLabels n t.name.localName t.description, .dataType (some b) (fieldsOf t)⟩) hn
    (fun b => rfl) fun q hq l _ => ?_) fun m s _ _ hm => ⟨hm.1, fun i e hi he => hm.2 i e (by rw [hdoc]; exact hi) he⟩
  refine Keeps.imp (hbase q hq) fun b s hs _ hb => ⟨fun x hx => ?_, hb.2.1, .dataType ht hb.2.2 rfl⟩
  obtain rfl := List.mem_singleton.1 hx
  exact hb.1

theorem dataBase_of_none {t : TypeDef} {b : BuiltIn} (hk : t.kind = .builtIn b) (hd : t.derivedBase? = none) :
    DataBase p t (builtInName (opcName b)) := by
  unfold DataBase
  rw [hd]
  exact ⟨b, hk, rfl⟩

/-- a type as a data type of the design -/
theorem keeps_registerDataType (hr : tree.Resolved) (t : TypeDef) : ∀ {todo done : List Job} {p : Progress},
    Sound tree todo done p → tree.Makes (.type t) → Above tree todo (.type t) →
    Keeps tree todo done p (registerDataType t) fun n s =>
      s.Asked .dataType (ownerOfType t) n ∧ NewBelow p s (some n) := by
  induction t using TypeDef.base_induct with
  | step t ih =>
    intro todo done p h ht ha
    obtain ⟨k, hk⟩ := hr.rooted (ht.type_mem t rfl)
    have hkind : t.kind = .builtIn k := hk t t.self_mem_chain
    -- a base of the built-in vocabulary
    have hprimitive : ∀ {q : Progress} {n : SymbolicName}, t.derivedBase? = none → n = builtInName (opcName k) →
        Fit tree todo q (sourceJob (.type t)) (n, .baseType) ∧ NewBelow q q (some n) ∧ DataBase q t n := by
      rintro q n hd rfl
      exact ⟨Or.inl (Or.inl (isStandard_opcName k)), newBelow_of_same rfl, dataBase_of_none hkind hd⟩
    obtain ⟨name, path, kind, base, enums, description⟩ := t
    cases base with
    | none =>
      rw [registerDataType]
      refine h.keeps_dataTypeUnder ht fun q hq => Keeps.imp (hq.keeps_primitive hkind path) ?_
      rintro n s - - ⟨hn, rfl⟩
      exact hprimitive (by unfold TypeDef.derivedBase?; split <;> rfl) hn
    | some b =>
      rw [registerDataType]
      refine h.keeps_dataTypeUnder ht fun q hq => ?_
      unfold baseDataType
      split
      · rename_i henum
        refine hq.keeps_pure (hprimitive (by unfold TypeDef.derivedBase?; rw [if_pos henum]) ?_)
        rw [henum] at hkind
        cases hkind
        rfl
      · rename_i henum
        split
        · rename_i hnone
          have hb : b.kind = .builtIn k := hk b (by rw [TypeDef.chain]; exact List.mem_cons_of_mem _ b.self_mem_chain)
          refine Keeps.imp (hq.keeps_primitive hb path) ?_
          rintro n s - - ⟨hn, rfl⟩
          refine hprimitive ?_ hn
          unfold TypeDef.derivedBase?
          rw [if_neg henum]
          simpa using hnone
        · rename_i hsome
          have hd : TypeDef.derivedBase? ⟨name, path, kind, some b, enums, description⟩ = some b := by
            unfold TypeDef.derivedBase?
            rw [if_neg henum]
            exact Option.filter_eq_some_iff.2 ⟨rfl, by simpa [Option.isSome_iff_ne_none] using hsome⟩
          have huv : tree.Under (.type ⟨name, path, kind, some b, enums, description⟩) (.type b) := .type hd
          refine Keeps.imp (ih b rfl hq (ht.base huv) (ha.cons ht huv)) fun n s hs _ hn => ⟨?_, hn.2, ?_⟩
          · exact hs.fit_base ht huv ha hn.1
          · unfold DataBase
            rw [hd]
            exact hn.1

/-- a data type for a type of a node: it may be referred to at once -/
theorem Sound.keeps_dataTypeOf (hr : tree.Resolved) (h : Sound tree todo done p) {n : Node} {t : TypeDef}
    (hn : n ∈ tree.nodes) (ht : n.kind.type? = some t) (htodo : ∀ x ∈ todo, x.purpose ≠ .type .dataType) :
    Keeps tree todo done p (dataTypeOf t) fun s q => TypedAs q t s ∧ q.Ready s := by
  obtain ⟨k, hk⟩ := hr.rooted (Tree.type_mem_types hn ht)
  unfold dataTypeOf
  split
  · rename_i hp
    refine Keeps.imp (h.keeps_primitive (hk t t.self_mem_chain) t.path) ?_
    rintro s q - - ⟨rfl, rfl⟩
    refine ⟨?_, Or.inl (isStandard_opcName k)⟩
    unfold TypedAs
    rw [if_pos hp]
    exact ⟨k, hk t t.self_mem_chain, rfl⟩
  · rename_i hp
    have hmakes : tree.Makes (.type t) := .type hn ht (by simpa using hp)
    refine Keeps.imp (keeps_registerDataType hr t h hmakes fun x hx hpx => absurd hpx (htodo x hx))
      fun s q hq _ hs => ⟨?_, Or.inr (hq.contains_of_asked hs.1 fun hx => htodo _ hx rfl)⟩
    unfold TypedAs
    rw [if_neg hp]
    exact hs.1

/-! ## Identities -/

/-- an identity with the type of its base, given how that is registered -/
theorem Sound.keeps_identityTypeUnder (h : Sound tree todo done p) {i : Identity} (hi : i ∈ tree.topIdentities)
    {base : Translator (Option SymbolicName)}
    (hbase : ∀ q, Sound tree (sourceJob (.identity i) :: todo) done q →
      Keeps tree (sourceJob (.identity i) :: todo) done q base fun b s =>
        (∀ m, b = some m → Fit tree todo s (sourceJob (.identity i)) (m, .baseType)) ∧ NewBelow q s b ∧
          IdentityBase tree s i b) :
    Keeps tree todo done p (identityTypeUnder i base) fun n s =>
      s.Asked .identity (ownerOf i.head) n ∧ NewBelow p s (some n) := by
  have hmakes : tree.Makes (.identity i) := .identity hi
  unfold identityTypeUnder
  refine Keeps.bind (h.keeps_nameFor hmakes.owns (.type .identity)) fun n t h1 l1 hn => ?_
  obtain ⟨hn, hdoc, -⟩ := hn
  refine Keeps.bind (h1.keeps_isRegistered .identity n) ?_
  rintro b _ - - ⟨hb, rfl⟩
  cases b with
  | true => exact h1.keeps_pure ⟨⟨hn, hb.symm⟩, newBelow_of_same hdoc⟩
  | false =>
    simp only [Bool.false_eq_true, if_false]
    split
    · rename_i hlen
      exact Keeps.bind (keeps_unsupported (Q := fun _ _ => False) (.multipleBases hi hlen)) fun _ _ _ _ hf => hf.elim
    · refine Keeps.imp (h1.keeps_source (u := .identity i) (n := n)
        (f := fun b => ⟨plainLabels n i.head.name.localName i.head.description, .objectType b false []⟩) hn
        (fun b => rfl) fun q hq l _ => ?_) fun m s _ _ hm => ⟨hm.1, fun i e hi he => hm.2 i e (by rw [hdoc]; exact hi) he⟩
      refine Keeps.imp (hbase q hq) fun b s hs _ hb => ⟨fun x hx => ?_, hb.2.1, .identity hi hb.2.2 rfl⟩
      obtain ⟨m, hm, rfl⟩ : ∃ m, b = some m ∧ x = (m, .baseType) := by
        cases b with
        | none => cases hx
        | some m => exact ⟨m, rfl, List.mem_singleton.1 hx⟩
      exact hb.1 m hm

/-- identities that are in work at one time are no more than the names they have -/
theorem length_le_identities (hr : tree.Resolved) {known : List QName} (hn : todo.Nodup)
    (hi : ∀ x ∈ todo, ∃ i ∈ tree.topIdentities, i.head.name ∈ known ∧ x = sourceJob (.identity i)) :
    todo.length ≤ known.length := by
  let key : Job → QName := fun x => ⟨x.owner.namespaceUri, x.owner.path.headD ""⟩
  have hkey : ∀ i ∈ tree.topIdentities, key (sourceJob (.identity i)) = i.head.name := by
    intro i hm
    show (⟨i.head.name.namespaceUri, i.head.path.headD ""⟩ : QName) = i.head.name
    rw [hr.statement_path hm]
    rfl
  have hnodup : (todo.map key).Nodup := by
    refine List.Nodup.map_on (fun x hx y hy hxy => ?_) hn
    obtain ⟨i, hmi, -, rfl⟩ := hi x hx
    obtain ⟨j, hmj, -, rfl⟩ := hi y hy
    rw [hkey i hmi, hkey j hmj] at hxy
    show typeJob .identity ⟨i.head.name.namespaceUri, i.head.path⟩ = typeJob .identity ⟨j.head.name.namespaceUri, j.head.path⟩
    rw [hr.statement_path hmi, hr.statement_path hmj, hxy]
  have hsub : todo.map key ⊆ known := by
    intro q hq
    obtain ⟨x, hx, rfl⟩ := List.mem_map.1 hq
    obtain ⟨i, hm, hknown, rfl⟩ := hi x hx
    rwa [hkey i hm]
  have hle := (hnodup.subperm hsub).length_le
  rwa [List.length_map] at hle

/-- an identity and the identities it derives from, all of them known by their names; the steps suffice for those that are not
yet in work -/
theorem keeps_translateIdentityWithin (hr : tree.Resolved) {known : List QName}
    (hknown : ∀ i ∈ tree.topIdentities, i.head.name ∈ known → ∀ q ∈ i.bases, q ∈ known) (steps : Nat) :
    ∀ {todo done : List Job} {p : Progress} {i : Identity}, Sound tree todo done p → i ∈ tree.topIdentities →
    i.head.name ∈ known → Above tree todo (.identity i) →
    (∀ x ∈ todo, ∃ j ∈ tree.topIdentities, j.head.name ∈ known ∧ x = sourceJob (.identity j)) →
    steps + todo.length = known.length + 1 →
    Keeps tree todo done p (translateIdentityWithin tree steps i) fun n s =>
      s.Asked .identity (ownerOf i.head) n ∧ NewBelow p s (some n) := by
  induction steps with
  | zero =>
    intro todo done p i h hi hname ha htodo hsteps
    have := length_le_identities hr h.nodup htodo
    omega
  | succ steps ih =>
    intro todo done p i h hi hname ha htodo hsteps
    rw [translateIdentityWithin]
    refine h.keeps_identityTypeUnder hi fun q hq => ?_
    unfold baseIdentityType
    split
    · rename_i hnil
      refine hq.keeps_pure ⟨(fun m hm => by cases hm), newBelow_of_same rfl, ?_⟩
      unfold IdentityBase Tree.baseOf?
      rw [hnil]
      rfl
    · rename_i b bs hcons
      have hb : b ∈ i.bases := by rw [hcons]; exact List.mem_cons_self
      obtain ⟨j, hj⟩ := Option.isSome_iff_exists.1 (hr.base_isSome hi hb)
      have hbase : tree.baseOf? i = some j := by
        rw [Tree.baseOf?, hcons]
        exact hj
      have huv : tree.Under (.identity i) (.identity j) := .identity hbase
      obtain ⟨hjm, hjname⟩ := Tree.mem_of_identity? hj
      rw [hj]
      refine Keeps.map (ih hq hjm (hjname ▸ hknown i hi hname b hb) (ha.cons (.identity hi) huv) ?_ ?_)
        fun n s hs _ hn => ⟨?_, hn.2, ?_⟩
      · exact List.forall_mem_cons.2 ⟨⟨i, hi, hname, rfl⟩, htodo⟩
      · rw [List.length_cons]
        omega
      · rintro m ⟨⟩
        exact hs.fit_base (.identity hi) huv ha hn.1
      · unfold IdentityBase
        rw [hbase]
        exact ⟨n, rfl, hn.1⟩

/-- an identity and the identities it derives from, with as many steps as there are known names and one more -/
theorem Sound.keeps_translateIdentityAmong (hr : tree.Resolved) (h : Sound tree [] done p) {known : List QName}
    (hknown : ∀ i ∈ tree.topIdentities, i.head.name ∈ known → ∀ q ∈ i.bases, q ∈ known) {i : Identity}
    (hi : i ∈ tree.topIdentities) (hname : i.head.name ∈ known) :
    Keeps tree [] done p (translateIdentityWithin tree (known.length + 1) i) fun n s =>
      s.Asked .identity (ownerOf i.head) n :=
  Keeps.imp (keeps_translateIdentityWithin hr hknown _ h hi hname (fun _ hx => by cases hx) (fun _ hx => by cases hx) rfl)
    fun _ _ _ _ hn => hn.1

/-- an identity and the identities it derives from; the steps suffice for all identities of the tree -/
theorem Sound.keeps_translateIdentity (hr : tree.Resolved) (h : Sound tree [] done p) {i : Identity}
    (hi : i ∈ tree.topIdentities) : Keeps tree [] done p (translateIdentity tree i) fun n s =>
      s.Asked .identity (ownerOf i.head) n := by
  have hknown : ∀ j ∈ tree.topIdentities, j.head.name ∈ tree.identities.keys → ∀ q ∈ j.bases, q ∈ tree.identities.keys :=
    fun j hj _ q hq => (Assoc.mem_keys_iff _ _).2 (hr.base_isSome hj hq)
  unfold translateIdentity
  rw [← Assoc.length_keys]
  exact h.keeps_translateIdentityAmong hr hknown hi ((Assoc.mem_keys_iff _ _).2 (Tree.identity?_isSome hi))

/-! ## Variable types -/

theorem Sound.keeps_variableType (hr : tree.Resolved) (h : Sound tree todo done p) {n : Node} {t : TypeDef} {r : TypeRole}
    (rank : ValueRank) (hn : n ∈ tree.nodes)
    (hk : n.kind = .leaf (some t) ∧ r = .leaf ∧ rank = .scalar ∨ n.kind = .leafList (some t) ∧ r = .leafList ∧ rank = .array)
    (htodo : ∀ x ∈ todo, x.purpose ≠ .type .dataType) :
    Keeps tree todo done p (variableType n.head (some t) r.text rank) fun s q => q.Asked r (ownerOf n.head) s := by
  have htype : n.kind.type? = some t := by
    rcases hk with ⟨hk, -⟩ | ⟨hk, -⟩ <;> rw [hk] <;> rfl
  have howns : tree.Owns (ownerOf n.head) := by
    refine Tree.owns_node hn ?_
    rcases hk with ⟨hk, -⟩ | ⟨hk, -⟩ <;> rw [hk] <;> rfl
  have hshape : r ≠ .dataType ∧ r ≠ .identity := by
    rcases hk with ⟨-, rfl, -⟩ | ⟨-, rfl, -⟩ <;> decide
  have hfamily : r.family = .variableType := by
    rcases hk with ⟨-, rfl, -⟩ | ⟨-, rfl, -⟩ <;> rfl
  unfold variableType
  refine Keeps.bind (h.keeps_nameFor howns (.type r)) fun s q h1 l1 hs => ?_
  rw [← hfamily]
  refine h1.keeps_register hs.1 (fun ha => ha) fun u _ h2 _ _ ha => ?_
  have htodo2 : ∀ x ∈ typeJob r (ownerOf n.head) :: todo, x.purpose ≠ .type .dataType :=
    List.forall_mem_cons.2 ⟨fun he => hshape.1 (Purpose.type.inj he), htodo⟩
  refine Holds.bind (Holds.imp (h2.keeps_dataTypeOf hr hn htype htodo2) fun m v hv => ?_)
  obtain ⟨h3, l3, htyped, hready⟩ := hv
  refine (h3.holds_finish (ha.mono l3) rfl (fun x hx => ?_) (closes_of_shape hshape) ?_).imp fun d w hw =>
    ⟨hw.2.1, l3.trans hw.2.2.later, ha.mono (l3.trans hw.2.2.later)⟩
  · rcases List.mem_cons.1 hx with rfl | hx
    · exact Or.inl (Or.inl (isStandard_builtInName (by decide)))
    · obtain rfl := List.mem_singleton.1 hx
      exact Or.inl hready
  · rcases hk with ⟨hk, rfl, rfl⟩ | ⟨hk, rfl, rfl⟩
    · exact .leaf hn hk htyped rfl
    · exact .leafList hn hk htyped rfl

end YangDesign.Translate
