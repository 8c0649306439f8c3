/-
What holds after a build. `Holds x s Q E`: run from the state `s`, the build `x` either answers, and then `Q` holds of the
answer and of the state reached, or it fails, and then `E` holds of the failure.

One rule for each way in which builds are put together. `holds_obtain` is the rule of the registry: a known name is answered
at once; for a new one the build runs with the name reserved, and what it built is recorded.
-/
import Mathlib.Tactic
import YangDesign.Translate.Registry

namespace YangDesign.Translate

open Design

variable {σ ε α β : Type}

/-- an answer satisfies `Q` with the state reached, a failure satisfies `E` -/
def Holds (x : Build σ ε α) (s : σ) (Q : α → σ → Prop) (E : ε → Prop) : Prop :=
  match (x.run s : Except ε α × σ) with
  | (.ok a, t) => Q a t
  | (.error e, _) => E e

theorem Holds.mono {x : Build σ ε α} {s : σ} {Q Q' : α → σ → Prop} {E E' : ε → Prop} (h : Holds x s Q E)
    (hq : ∀ a t, Q a t → Q' a t) (he : ∀ e, E e → E' e) : Holds x s Q' E' := by
  unfold Holds at h ⊢
  split at h
  · exact hq _ _ h
  · exact he _ h

theorem Holds.imp {x : Build σ ε α} {s : σ} {Q Q' : α → σ → Prop} {E : ε → Prop} (h : Holds x s Q E)
    (hq : ∀ a t, Q a t → Q' a t) : Holds x s Q' E :=
  h.mono hq fun _ he => he

/-- what holds of every answer and every failure -/
theorem holds_of_forall {x : Build σ ε α} {s : σ} {Q : α → σ → Prop} {E : ε → Prop} (hq : ∀ a t, Q a t) (he : ∀ e, E e) :
    Holds x s Q E := by
  unfold Holds
  split
  · exact hq _ _
  · exact he _

theorem Holds.and {x : Build σ ε α} {s : σ} {Q Q' : α → σ → Prop} {E E' : ε → Prop} (h : Holds x s Q E)
    (h' : Holds x s Q' E') : Holds x s (fun a t => Q a t ∧ Q' a t) fun e => E e ∧ E' e := by
  unfold Holds at h h' ⊢
  split at h
  · rename_i hrun
    rw [hrun] at h'
    exact ⟨h, h'⟩
  · rename_i hrun
    rw [hrun] at h'
    exact ⟨h, h'⟩

theorem holds_pure {a : α} {s : σ} {Q : α → σ → Prop} {E : ε → Prop} (h : Q a s) :
    Holds (pure a : Build σ ε α) s Q E := h

theorem holds_throw {e : ε} {s : σ} {Q : α → σ → Prop} {E : ε → Prop} (h : E e) :
    Holds (throw e : Build σ ε α) s Q E := h

theorem holds_get {s : σ} {Q : σ → σ → Prop} {E : ε → Prop} (h : Q s s) : Holds (get : Build σ ε σ) s Q E := h

theorem holds_modify {f : σ → σ} {s : σ} {Q : Unit → σ → Prop} {E : ε → Prop} (h : Q () (f s)) :
    Holds (modify f : Build σ ε Unit) s Q E := h

/-- an answer or a failure that does not depend on the state -/
theorem holds_lift {r : Except ε α} {s : σ} {Q : α → σ → Prop} {E : ε → Prop} (hq : ∀ a, r = .ok a → Q a s)
    (he : ∀ e, r = .error e → E e) : Holds (liftM r : Build σ ε α) s Q E := by
  cases r with
  | ok a => exact hq a rfl
  | error e => exact he e rfl

theorem run_bind (x : Build σ ε α) (f : α → Build σ ε β) (s : σ) :
    ((x >>= f).run s : Except ε β × σ) =
      match (x.run s : Except ε α × σ) with
      | (.ok a, t) => (f a).run t
      | (.error e, t) => (.error e, t) := by
  rw [ExceptT.run_bind]
  show (match (x.run s : Except ε α × σ) with
    | (r, t) => (match r with
      | .ok a => (f a).run
      | .error e => pure (.error e) : StateM σ (Except ε β)) t) = _
  obtain ⟨r | r, t⟩ := (x.run s : Except ε α × σ) <;> rfl

theorem run_get_bind (f : σ → Build σ ε α) (s : σ) : ((get >>= f).run s : Except ε α × σ) = (f s).run s := rfl

theorem run_modify_bind (g : σ → σ) (f : Unit → Build σ ε α) (s : σ) :
    ((modify g >>= f).run s : Except ε α × σ) = (f ()).run (g s) := rfl

/-- a build in two parts that answers -/
theorem ok_of_run_bind {x : Build σ ε α} {f : α → Build σ ε β} {s u : σ} {b : β}
    (h : ((x >>= f).run s : Except ε β × σ) = (.ok b, u)) :
    ∃ a t, (x.run s : Except ε α × σ) = (.ok a, t) ∧ ((f a).run t : Except ε β × σ) = (.ok b, u) := by
  rw [run_bind] at h
  rcases hrun : (x.run s : Except ε α × σ) with ⟨e | a, t⟩
  · rw [hrun] at h
    cases h
  · rw [hrun] at h
    exact ⟨a, t, rfl, h⟩

theorem Holds.bind {x : Build σ ε α} {f : α → Build σ ε β} {s : σ} {Q : β → σ → Prop} {E : ε → Prop}
    (h : Holds x s (fun a t => Holds (f a) t Q E) E) : Holds (x >>= f) s Q E := by
  unfold Holds at h ⊢
  rw [run_bind]
  split at h <;> exact h

theorem Holds.map {x : Build σ ε α} {f : α → β} {s : σ} {Q : β → σ → Prop} {E : ε → Prop}
    (h : Holds x s (fun a t => Q (f a) t) E) : Holds (f <$> x) s Q E := by
  rw [map_eq_pure_bind]
  exact h.bind

theorem isRegistered_insert (r : Registry) (f f' : Family) (n n' : SymbolicName) (d : Option Definition) :
    (⟨r.entries.insert (f, n) d⟩ : Registry).isRegistered f' n' = (decide (f = f' ∧ n = n') || r.isRegistered f' n') := by
  rw [Registry.isRegistered, Registry.isRegistered, Assoc.contains, Assoc.contains, Assoc.find?_insert]
  by_cases h : (f, n) = (f', n')
  · rw [if_pos h, decide_eq_true (Prod.mk.inj h)]
    rfl
  · rw [if_neg h, decide_eq_false fun hfn => h (Prod.ext hfn.1 hfn.2), Bool.false_or]

theorem lookUp_insert (r : Registry) (f f' : Family) (n n' : SymbolicName) (d : Option Definition) :
    (⟨r.entries.insert (f, n) d⟩ : Registry).lookUp f' n' = if f = f' ∧ n = n' then d else r.lookUp f' n' := by
  rw [Registry.lookUp, Registry.lookUp, Assoc.find?_insert]
  by_cases h : (f, n) = (f', n')
  · rw [if_pos h, if_pos (Prod.mk.inj h), Option.getD_some]
  · rw [if_neg h, if_neg fun hfn => h (Prod.ext hfn.1 hfn.2)]

theorem size_insert (r : Registry) (f : Family) (n : SymbolicName) (d : Option Definition) :
    (⟨r.entries.insert (f, n) d⟩ : Registry).size = if r.isRegistered f n then r.size else r.size + 1 := by
  have hkey : (f, n) ∈ r.entries.keys ↔ r.isRegistered f n = true := Assoc.mem_keys_iff _ _
  rw [Registry.size, Registry.size, ← Assoc.length_keys, ← Assoc.length_keys, Assoc.keys_insert]
  by_cases h : r.isRegistered f n = true
  · rw [if_pos (hkey.2 h), if_pos h]
  · rw [if_neg (mt hkey.1 h), if_neg h, List.length_append, List.length_singleton]

theorem isRegistered_of_lookUp {r : Registry} {f : Family} {n : SymbolicName} {d : Definition} (h : r.lookUp f n = some d) :
    r.isRegistered f n = true := by
  unfold Registry.lookUp at h
  unfold Registry.isRegistered Assoc.contains
  cases hfind : r.entries.find? (f, n) with
  | none =>
    rw [hfind] at h
    cases h
  | some e => rfl

/-- **The rule of the registry.** A known name is answered at once. For a new name the build runs with the name reserved,
and what it built is recorded. -/
theorem holds_obtain [HasRegistry σ] {f : Family} {n : SymbolicName} {build : Build σ ε Definition} {s : σ}
    {Q : SymbolicName → σ → Prop} {E : ε → Prop}
    (known : (HasRegistry.registry s).isRegistered f n = true → Q n s)
    (new : (HasRegistry.registry s).isRegistered f n = false →
      Holds build (HasRegistry.withRegistry ((HasRegistry.registry s).reserve f n) s)
        (fun d t => Q n (HasRegistry.withRegistry ((HasRegistry.registry t).record f n d) t)) E) :
    Holds (obtain f n build) s Q E := by
  unfold obtain
  refine Holds.bind (holds_get ?_)
  cases h : (HasRegistry.registry s).isRegistered f n with
  | true =>
    simp only [h, if_true]
    exact holds_pure (known h)
  | false =>
    simp only [h, Bool.false_eq_true, if_false]
    refine Holds.bind (holds_modify (Holds.bind ((new h).imp fun d t ht => ?_)))
    exact Holds.bind (holds_modify (holds_pure ht))

theorem holds_forM_nil {f : α → Build σ ε Unit} {s : σ} {Q : Unit → σ → Prop} {E : ε → Prop} (h : Q () s) :
    Holds (([] : List α).forM f) s Q E := h

theorem holds_forM_cons {a : α} {as : List α} {f : α → Build σ ε Unit} {s : σ} {Q : Unit → σ → Prop} {E : ε → Prop}
    (h : Holds (f a) s (fun _ t => Holds (as.forM f) t Q E) E) : Holds ((a :: as).forM f) s Q E :=
  h.bind

theorem forM_congr {f g : α → Build σ ε Unit} {as : List α} (h : ∀ a ∈ as, f a = g a) : as.forM f = as.forM g := by
  induction as with
  | nil => rfl
  | cons a as ih =>
    obtain ⟨ha, has⟩ := List.forall_mem_cons.1 h
    show (f a >>= fun _ => as.forM f) = (g a >>= fun _ => as.forM g)
    rw [ha, ih has]

theorem holds_mapM_nil {f : α → Build σ ε β} {s : σ} {Q : List β → σ → Prop} {E : ε → Prop} (h : Q [] s) :
    Holds (([] : List α).mapM f) s Q E := h

theorem holds_mapM_cons {a : α} {as : List α} {f : α → Build σ ε β} {s : σ} {Q : List β → σ → Prop} {E : ε → Prop}
    (h : Holds (f a) s (fun b t => Holds (as.mapM f) t (fun bs t => Q (b :: bs) t) E) E) :
    Holds ((a :: as).mapM f) s Q E := by
  rw [List.mapM_cons]
  refine Holds.bind (h.imp fun b t hb => ?_)
  exact Holds.bind (hb.imp fun bs t hbs => holds_pure hbs)

/-- what holds after a build that answered -/
theorem Holds.ok {x : Build σ ε α} {s t : σ} {a : α} {Q : α → σ → Prop} {E : ε → Prop} (h : Holds x s Q E)
    (hr : (x.run s : Except ε α × σ) = (.ok a, t)) : Q a t := by
  unfold Holds at h
  rw [hr] at h
  exact h

/-- what holds of the failure of a build -/
theorem Holds.error {x : Build σ ε α} {s t : σ} {e : ε} {Q : α → σ → Prop} {E : ε → Prop} (h : Holds x s Q E)
    (hr : (x.run s : Except ε α × σ) = (.error e, t)) : E e := by
  unfold Holds at h
  rw [hr] at h
  exact h

/-- parts in order that answer, up to any of them and from there -/
theorem ok_of_run_forM_append {f : α → Build σ ε Unit} {as bs : List α} {s u : σ}
    (h : (((as ++ bs).forM f).run s : Except ε Unit × σ) = (.ok (), u)) :
    ∃ t, ((as.forM f).run s : Except ε Unit × σ) = (.ok (), t) ∧ ((bs.forM f).run t : Except ε Unit × σ) = (.ok (), u) := by
  have happend : (as ++ bs).forM f = (as.forM f >>= fun _ => bs.forM f) := List.forM_append
  rw [happend] at h
  obtain ⟨⟨⟩, t, has, hbs⟩ := ok_of_run_bind h
  exact ⟨t, has, hbs⟩

/-- parts in order that run alike wherever an invariant holds, which they keep -/
theorem run_forM_congr {f g : α → Build σ ε Unit} {P : σ → Prop} {as : List α} {s : σ}
    (hsame : ∀ a ∈ as, ∀ t, P t → ((f a).run t : Except ε Unit × σ) = (g a).run t)
    (hkeep : ∀ a ∈ as, ∀ t, P t → Holds (g a) t (fun _ u => P u) fun _ => True) (hs : P s) :
    ((as.forM f).run s : Except ε Unit × σ) = (as.forM g).run s := by
  induction as generalizing s with
  | nil => rfl
  | cons a as ih =>
    obtain ⟨ha, has⟩ := List.forall_mem_cons.1 hsame
    obtain ⟨hka, hkas⟩ := List.forall_mem_cons.1 hkeep
    show ((f a >>= fun _ => as.forM f).run s : Except ε Unit × σ) = (g a >>= fun _ => as.forM g).run s
    rw [run_bind, run_bind, ha s hs]
    rcases hrun : ((g a).run s : Except ε Unit × σ) with ⟨e | _, t⟩
    · rfl
    · exact ih has hkas ((hka s hs).ok hrun)

/-! ## Builds that stop earlier -/

/-- `y` runs as `x` does, unless `x` fails in the way of `E` -/
def SameUnless (E : ε → Prop) (x y : Build σ ε α) : Prop :=
  ∀ s, (∃ e t, (x.run s : Except ε α × σ) = (.error e, t) ∧ E e) ∨ (x.run s : Except ε α × σ) = y.run s

namespace SameUnless

variable {E : ε → Prop} {x y : Build σ ε α}

theorem refl (x : Build σ ε α) : SameUnless E x x := fun _ => Or.inr rfl

theorem throw {e : ε} (h : E e) (y : Build σ ε α) : SameUnless E (MonadExcept.throw e) y :=
  fun s => Or.inl ⟨e, s, rfl, h⟩

theorem bind {f g : α → Build σ ε β} (h : SameUnless E x y) (k : ∀ a, SameUnless E (f a) (g a)) :
    SameUnless E (x >>= f) (y >>= g) := by
  intro s
  rw [run_bind, run_bind]
  rcases h s with ⟨e, t, hrun, he⟩ | hrun
  · rw [hrun]
    exact Or.inl ⟨e, t, rfl, he⟩
  · rw [hrun]
    rcases (y.run s : Except ε α × σ) with ⟨e | a, t⟩
    · exact Or.inr rfl
    · exact k a t

theorem map (f : α → β) (h : SameUnless E x y) : SameUnless E (f <$> x) (f <$> y) := by
  rw [map_eq_pure_bind, map_eq_pure_bind]
  exact h.bind fun _ => refl _

theorem obtain [HasRegistry σ] {x y : Build σ ε Definition} (f : Family) (n : SymbolicName) (h : SameUnless E x y) :
    SameUnless E (Translate.obtain f n x) (Translate.obtain f n y) := by
  unfold Translate.obtain
  refine (refl _).bind fun s => ?_
  dsimp only
  split
  · exact refl _
  · exact (refl _).bind fun _ => h.bind fun _ => refl _

/-- a build that never fails in this way runs as the other -/
theorem run_eq (h : SameUnless E x y) {s : σ} {Q : α → σ → Prop} {E' : ε → Prop} (hx : Holds x s Q E')
    (he : ∀ e, E' e → ¬ E e) : (x.run s : Except ε α × σ) = y.run s := by
  rcases h s with ⟨e, t, hrun, hf⟩ | hrun
  · exact absurd hf (he e (hx.error hrun))
  · exact hrun

end SameUnless

-- from here on only the rules open `Holds`: evaluating a translation to its normal form is out of reach
attribute [irreducible] Holds

end YangDesign.Translate
