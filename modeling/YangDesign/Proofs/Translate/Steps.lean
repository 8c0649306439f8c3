/-
The steps of a translation and the invariant.

`Keeps tree todo done p x Q`: from the state `p`, the part `x` of a translation either answers, keeping the invariant and all
that `p` has, and then `Q` holds of the answer; or it refuses the tree for a reason. One rule for each step: a note, a name,
a registered type, an emitted definition, a counted entry.
-/
import YangDesign.Proofs.Translate.Soundness

namespace YangDesign.Translate

open Design Schema Progress

variable {α β : Type} {tree : Tree} {todo done : List Job} {p : Progress}

/-- an answer keeps the invariant and satisfies `Q`, a failure is a refusal -/
def Keeps (tree : Tree) (todo done : List Job) (p : Progress) (x : Translator α) (Q : α → Progress → Prop) : Prop :=
  Holds x p (fun a t => Sound tree todo done t ∧ p.Later t ∧ Q a t) (Refusal tree)

theorem Keeps.imp {x : Translator α} {Q Q' : α → Progress → Prop} (h : Keeps tree todo done p x Q)
    (hq : ∀ a t, Sound tree todo done t → p.Later t → Q a t → Q' a t) : Keeps tree todo done p x Q' :=
  Holds.imp h fun a t ⟨hs, l, ha⟩ => ⟨hs, l, hq a t hs l ha⟩

theorem Keeps.since {x : Translator α} {Q : α → Progress → Prop} {t : Progress} (h : Keeps tree todo done t x Q)
    (l : p.Later t) : Holds x t (fun a s => Sound tree todo done s ∧ p.Later s ∧ Q a s) (Refusal tree) :=
  Holds.imp h fun _ _ ⟨hs, l', ha⟩ => ⟨hs, l.trans l', ha⟩

theorem Keeps.bind {x : Translator α} {f : α → Translator β} {R : α → Progress → Prop} {Q : β → Progress → Prop}
    (h : Keeps tree todo done p x R)
    (k : ∀ a t, Sound tree todo done t → p.Later t → R a t → Keeps tree todo done t (f a) Q) :
    Keeps tree todo done p (x >>= f) Q :=
  Holds.bind (Holds.imp h fun a t ⟨hs, l, ha⟩ => (k a t hs l ha).since l)

theorem Keeps.map {x : Translator α} {f : α → β} {R : α → Progress → Prop} {Q : β → Progress → Prop}
    (h : Keeps tree todo done p x R) (k : ∀ a t, Sound tree todo done t → p.Later t → R a t → Q (f a) t) :
    Keeps tree todo done p (f <$> x) Q :=
  Holds.map (Holds.imp h fun a t ⟨hs, l, ha⟩ => ⟨hs, l, k a t hs l ha⟩)

theorem Sound.keeps_pure (h : Sound tree todo done p) {a : α} {Q : α → Progress → Prop} (hq : Q a p) :
    Keeps tree todo done p (pure a : Translator α) Q :=
  holds_pure ⟨h, Later.refl p, hq⟩

theorem keeps_unsupported {cause : Cause} {path : List String} {Q : α → Progress → Prop}
    (h : Refusal tree (.untranslatable cause path)) : Keeps tree todo done p (unsupported cause path : Translator α) Q :=
  holds_throw h

theorem Sound.keeps_note (h : Sound tree todo done p) (e : Event) :
    Keeps tree todo done p (note e) fun _ t => t.document = p.document ∧ t.registry = p.registry := by
  refine holds_modify ?_
  have hs : Sound tree todo done { p with journal := p.journal ++ [e] } ∧ p.Later { p with journal := p.journal ++ [e] } :=
    h.same rfl rfl (Namer.Grows.refl _) h.namer h.owners (fun _ => le_refl _) (List.prefix_append _ _)
  exact ⟨hs.1, hs.2, rfl, rfl⟩

theorem Sound.keeps_isRegistered (h : Sound tree todo done p) (f : Family) (n : SymbolicName) :
    Keeps tree todo done p (isRegistered f n) fun b t => b = p.registry.isRegistered f n ∧ t = p := by
  unfold isRegistered
  exact Holds.bind (holds_get (holds_pure ⟨h, Later.refl p, rfl, rfl⟩))

/-- what asking for a name comes to in the state of a translation -/
theorem holds_nameFor {o : Owner} {role : String} {r : Except NamingFault SymbolicName} {m : Namer}
    {Q : SymbolicName → Progress → Prop} {E : Failure → Prop} (hr : p.namer.nameFor o role = (r, m))
    (ok : ∀ n, r = .ok n → Q n { p with namer := m })
    (notSymbol : ∀ s, r = .error (.notSymbol s) → E (.untranslatable (.notSymbol s) o.path))
    (clash : ∀ s path other, r = .error (.clash s path other) → E (.untranslatable (.clash s path other) o.path)) :
    Holds (nameFor o role) p Q E := by
  unfold nameFor
  refine Holds.bind (holds_get ?_)
  rw [hr]
  refine Holds.bind (holds_modify ?_)
  cases r with
  | ok n => exact holds_pure (ok n rfl)
  | error fault =>
    cases fault with
    | notSymbol s => exact holds_throw (notSymbol s rfl)
    | clash s path other => exact holds_throw (clash s path other rfl)

/-- a name that is given out -/
theorem holds_nameFor_ok {o : Owner} {role : String} {Q : SymbolicName → Progress → Prop}
    (h : ∀ n m, p.namer.nameFor o role = (.ok n, m) → Q n { p with namer := m }) :
    Holds (nameFor o role) p Q fun _ => True := by
  rcases hr : p.namer.nameFor o role with ⟨r, m⟩
  exact holds_nameFor hr (fun n hn => h n m (by rw [hr, hn])) (fun _ _ => trivial) fun _ _ _ _ => trivial

theorem keeps_mapM {f : α → Translator β} {as : List α}
    (hf : ∀ a ∈ as, ∀ q, Sound tree todo done q → p.Later q → Keeps tree todo done q (f a) fun _ _ => True)
    (h : Sound tree todo done p) : Keeps tree todo done p (as.mapM f) fun _ _ => True := by
  have hrun : ∀ q, Sound tree todo done q → p.Later q → Keeps tree todo done q (as.mapM f) fun _ _ => True := by
    induction as with
    | nil => exact fun q hq _ => holds_mapM_nil ⟨hq, Later.refl q, trivial⟩
    | cons a as ih =>
      intro q hq l
      refine holds_mapM_cons (Holds.imp (hf a List.mem_cons_self q hq l) fun b t ht => ?_)
      obtain ⟨ht, l1, -⟩ := ht
      exact (ih (fun a ha => hf a (List.mem_cons_of_mem _ ha)) t ht (l.trans l1)).since l1
  exact hrun p h (Later.refl p)

/-- parts in order, each of which makes something true for good -/
theorem keeps_forM {f : α → Translator Unit} {R : Progress → α → Prop} {as : List α}
    (hR : ∀ {q t : Progress} {a : α}, R q a → q.Later t → R t a)
    (hf : ∀ a ∈ as, ∀ q, Sound tree todo done q → Keeps tree todo done q (f a) fun _ t => R t a)
    (h : Sound tree todo done p) : Keeps tree todo done p (as.forM f) fun _ t => ∀ a ∈ as, R t a := by
  induction as generalizing p with
  | nil => exact holds_forM_nil ⟨h, Later.refl p, fun a ha => by cases ha⟩
  | cons a as ih =>
    refine holds_forM_cons (Holds.imp (hf a List.mem_cons_self p h) fun _ t ht => ?_)
    obtain ⟨ht, l1, ha⟩ := ht
    refine Holds.imp (ih (fun a ha => hf a (List.mem_cons_of_mem _ ha)) ht) fun _ u hu => ?_
    exact ⟨hu.1, l1.trans hu.2.1, List.forall_mem_cons.2 ⟨hR ha hu.2.1, hu.2.2⟩⟩

/-- a name for an owner of the tree -/
theorem Sound.keeps_nameFor (h : Sound tree todo done p) {o : Owner} (ho : tree.Owns o) (q : Purpose) :
    Keeps tree todo done p (nameFor o q.text) fun n t =>
      t.Named ⟨q, o⟩ n ∧ t.document = p.document ∧ t.registry = p.registry := by
  have hseen : o.namespaceUri ∈ (p.namer.see o.namespaceUri).namespaces := Namer.mem_see _ _
  have hgrows := Namer.grows_see p.namer o.namespaceUri
  have hsound := h.namer.see o.namespaceUri
  have howns : ∀ name o', (p.namer.see o.namespaceUri).owners.find? name = some o' → tree.Owns o' := by
    intro name o' hf
    rw [Namer.owners_see] at hf
    exact h.owners name o' hf
  have hkeep : ∀ m, p.namer.Grows m → m.Sound → (∀ name o, m.owners.find? name = some o → tree.Owns o) →
      Sound tree todo done { p with namer := m } ∧ p.Later { p with namer := m } :=
    fun m hg hm hmo => h.same rfl rfl hg hm hmo (fun _ => le_refl _) (List.prefix_refl _)
  rcases Namer.nameFor_cases p.namer o q.text with ⟨hsym, hr⟩ | ⟨o', hne, ho', hr⟩ | ⟨ho', hr⟩ | ⟨ho', hr⟩
  · refine holds_nameFor hr (fun n hn => by cases hn) (fun s hs => ?_) (fun s path other hs => by cases hs)
    cases hs
    exact .notSymbol ho hsym
  · refine holds_nameFor hr (fun n hn => by cases hn) (fun s hs => by cases hs) (fun s path other hs => ?_)
    cases hs
    obtain ⟨q', g⟩ := hsound _ _ ho'
    exact .clash ho (howns _ _ ho') hne (congrArg SymbolicName.name g.spelled).symm
  · refine holds_nameFor hr (fun n hn => ?_) (fun s hs => by cases hs) (fun s path other hs => by cases hs)
    cases hn
    obtain ⟨hs, l⟩ := hkeep _ hgrows hsound howns
    exact ⟨hs, l, ⟨hseen, rfl, ho'⟩, rfl, rfl⟩
  · refine holds_nameFor hr (fun n hn => ?_) (fun s hs => by cases hs) (fun s path other hs => by cases hs)
    cases hn
    obtain ⟨hs, l⟩ := hkeep _ (hgrows.trans (Namer.grows_insert o ho')) (hsound.insert hseen ho') fun name o' hf => by
      rw [Assoc.find?_insert] at hf
      split at hf
      · cases hf
        exact ho
      · exact howns name o' hf
    exact ⟨hs, l, Namer.gave_insert hseen q.text, rfl, rfl⟩

/-! ## Definitions -/

/-- the state in which a definition is recorded -/
def recorded (t : Progress) (f : Family) (n : SymbolicName) (d : Definition) : Progress :=
  { t with registry := t.registry.record f n d }

/-- a registered type: a known name is answered at once, a new one is a job that is to be emitted and recorded -/
theorem Sound.keeps_register (h : Sound tree todo done p) {r : TypeRole} {o : Owner} {n : SymbolicName}
    (hn : p.Named (typeJob r o) n) {build : Translator Definition} {Q : SymbolicName → Progress → Prop}
    (known : p.Asked r o n → Q n p)
    (new : ∀ t, p.registry.isRegistered r.family n = false → Sound tree (typeJob r o :: todo) done t → p.Later t →
      t.document = p.document → t.Asked r o n →
      Holds build t (fun d s => Sound tree todo done (recorded s r.family n d) ∧ t.Later (recorded s r.family n d) ∧
        Q n (recorded s r.family n d)) (Refusal tree)) :
    Keeps tree todo done p (register r.family n build) Q := by
  refine holds_obtain (fun hk => ⟨h, Later.refl p, known ⟨hn, hk⟩⟩) fun hk => ?_
  obtain ⟨h1, l1, ha⟩ := h.reserve hn hk
  refine Holds.bind (Holds.imp (h1.keeps_note _) fun _ t ht => ?_)
  obtain ⟨ht, l2, hdoc, -⟩ := ht
  exact (new t hk ht (l1.trans l2) hdoc (ha.mono l2)).imp fun d s hs => ⟨hs.1, (l1.trans l2).trans hs.2.1, hs.2.2⟩

/-- an emitted definition stands at the end of the design; the job is done -/
theorem Sound.holds_emit {x : Job} (h : Sound tree (x :: todo) done p) {d : Definition} (hn : p.Named x d.name)
    (hb : p.Begun x) (ht : ∀ t ∈ d.targets, Fit tree todo p x t) (hc : Closes p x d) :
    Holds (Translate.emit d) p (fun _ t => Sound tree todo (x :: done) t ∧ p.Later t ∧ t.document.get? d.name = some d ∧
      t.document.definitions = p.document.definitions.push d) (Refusal tree) := by
  obtain ⟨doc, ha⟩ : ∃ doc, p.document.append d = some doc :=
    ⟨_, ModelDocument.append_eq_some_iff.2 ⟨h.fresh x List.mem_cons_self d.name hn, rfl⟩⟩
  obtain ⟨h1, l1, hget⟩ := h.emit hn hb ha ht hc
  unfold Translate.emit
  refine Holds.bind (holds_get ?_)
  rw [ha]
  refine Holds.bind (holds_modify (Holds.imp (h1.keeps_note _) fun _ t hs => ?_))
  obtain ⟨hs, l2, hdoc, -⟩ := hs
  exact ⟨hs, l1.trans l2, hdoc ▸ hget, hdoc ▸ ModelDocument.definitions_append ha⟩

/-- `q` is `p` with a definition at the end of the design -/
structure Adds (p q : Progress) (d : Definition) : Prop where
  later : p.Later q
  definitions : q.document.definitions = p.document.definitions.push d
  found : q.document.get? d.name = some d

/-- the last step of a type: its definition is emitted and recorded -/
theorem Sound.holds_finish {r : TypeRole} {o : Owner} {n : SymbolicName} (h : Sound tree (typeJob r o :: todo) done p)
    (ha : p.Asked r o n) {d : Definition} (hd : d.name = n) (ht : ∀ t ∈ d.targets, Fit tree todo p (typeJob r o) t)
    (hc : Closes p (typeJob r o) d) (hm : Made tree p r o d) :
    Holds (do Translate.emit d; return d : Translator Definition) p
      (fun e s => e = d ∧ Sound tree todo done (recorded s r.family n e) ∧ Adds p (recorded s r.family n e) d)
      (Refusal tree) := by
  subst hd
  refine Holds.bind ((h.holds_emit ha.named ⟨d.name, ha⟩ ht hc).imp fun _ t hs => ?_)
  obtain ⟨h1, l1, hget, hdefs⟩ := hs
  obtain ⟨h2, l2⟩ := h1.record (ha.mono l1) hget (hm.mono l1)
  exact holds_pure ⟨rfl, h2, l1.trans l2, hdefs, hget⟩

/-- the job of a type that is no source never closes a derivation -/
theorem closes_of_shape {r : TypeRole} {o : Owner} {d : Definition} (hr : r ≠ .dataType ∧ r ≠ .identity) :
    Closes p (typeJob r o) d := by
  intro v hv
  cases v with
  | type t =>
    cases hv
    exact absurd rfl hr.1
  | identity i =>
    cases hv
    exact absurd rfl hr.2

/-- an entry of a list is counted, and its object becomes a job -/
theorem Sound.holds_nextElement (h : Sound tree todo done p) {o : Owner} {list : SymbolicName}
    (hg : p.namer.Gave o "" list) :
    Holds (nextElement list) p (fun i t => Sound tree (⟨.element i, o⟩ :: todo) done t ∧ p.Later t) (Refusal tree) := by
  obtain ⟨h1, l1⟩ := h.count hg
  unfold nextElement
  exact Holds.bind (holds_get (Holds.bind (holds_modify (holds_pure ⟨h1, l1⟩))))

end YangDesign.Translate
