/-
Contexts of requests for data types: the states that are reached by such requests, all of them answered.

`Stocked`: what is registered has a name that was given, and derives from what is built in or registered; the design holds no
other names. Every part of a request keeps this, since a name is reserved before anything is built over it. `Finishes`: what a
request reserves it records, so nothing is left without a definition once it is answered (`AfterDataTypes.stocked`).
-/
import YangDesign.Proofs.Translate.Registration

namespace YangDesign.Translate

open Design Schema Progress

/-- states reached by requests for data types that were answered -/
inductive AfterDataTypes : Progress → Prop where
  | start (target : String) (namespaces : List Namespace) : AfterDataTypes (.start (.new target namespaces))
  | ask {p q : Progress} {t : TypeDef} {n : SymbolicName} : AfterDataTypes p →
    ((dataTypeOf t).run p : Except Failure SymbolicName × Progress) = (.ok n, q) → AfterDataTypes q

/-- what is registered has a name that was given and derives from what is built in or registered, and the design holds what is
registered only -/
structure Stocked (p : Progress) : Prop where
  named : ∀ n, p.registry.isRegistered .dataType n = true → ∃ o, p.namer.Gave o TypeRole.dataType.text n
  based : ∀ n d, p.registry.lookUp .dataType n = some d → ∀ b fields, d.content = .dataType (some b) fields →
    IsStandard b ∨ p.registry.isRegistered .dataType b = true
  listed : ∀ n, p.document.contains n = true → p.registry.isRegistered .dataType n = true

/-- a data type that is registered without a definition was so before -/
def Finishes (p q : Progress) : Prop :=
  ∀ n, q.registry.isRegistered .dataType n = true → q.registry.lookUp .dataType n = none →
    p.registry.isRegistered .dataType n = true ∧ p.registry.lookUp .dataType n = none

/-- an answer stays within what is registered, and is such a name itself -/
def Stocks (p : Progress) (x : Translator SymbolicName) : Prop :=
  Holds x p (fun n q => Stocked q ∧ Finishes p q ∧ (IsStandard n ∨ q.registry.isRegistered .dataType n = true)) fun _ => True

variable {p q r : Progress}

theorem Finishes.refl (p : Progress) : Finishes p p := fun _ hn hnone => ⟨hn, hnone⟩

theorem stocked_start (target : String) (namespaces : List Namespace) : Stocked (.start (.new target namespaces)) where
  named := fun n h => by cases h
  based := fun n d h => by cases h
  listed := fun n h => by cases h

/-- names are given out, and the rest stays -/
theorem Stocked.same (h : Stocked p) (hn : p.namer.Grows q.namer) (hr : q.registry = p.registry)
    (hd : q.document = p.document) : Stocked q where
  named := fun n hreg => by
    rw [hr] at hreg
    obtain ⟨o, ho⟩ := h.named n hreg
    exact ⟨o, ho.mono hn⟩
  based := fun n d hlook b fields hb => by
    rw [hr] at hlook ⊢
    exact h.based n d hlook b fields hb
  listed := fun n hmem => by
    rw [hd] at hmem
    rw [hr]
    exact h.listed n hmem

/-- a name that was given is reserved, or recorded with a definition over what is built in or registered -/
theorem Stocked.insert (h : Stocked p) {n : SymbolicName} {e : Option Definition} {o : Owner}
    (ho : p.namer.Gave o TypeRole.dataType.text n)
    (he : ∀ d, e = some d → ∀ b fields, d.content = .dataType (some b) fields →
      IsStandard b ∨ p.registry.isRegistered .dataType b = true) :
    Stocked { p with registry := ⟨p.registry.entries.insert (.dataType, n) e⟩ } where
  named := fun m hm => by
    change (⟨p.registry.entries.insert (.dataType, n) e⟩ : Registry).isRegistered .dataType m = true at hm
    rw [isRegistered_insert, Bool.or_eq_true, decide_eq_true_iff] at hm
    rcases hm with ⟨-, rfl⟩ | hm
    · exact ⟨o, ho⟩
    · exact h.named m hm
  based := fun m d hm b fields hb => by
    have hkeep : p.registry.isRegistered .dataType b = true →
        (⟨p.registry.entries.insert (.dataType, n) e⟩ : Registry).isRegistered .dataType b = true := fun hb => by
      rw [isRegistered_insert, hb, Bool.or_true]
    change (⟨p.registry.entries.insert (.dataType, n) e⟩ : Registry).lookUp .dataType m = some d at hm
    rw [lookUp_insert] at hm
    split at hm
    · exact (he d hm b fields hb).imp_right hkeep
    · exact (h.based m d hm b fields hb).imp_right hkeep
  listed := fun m hm => by
    show (⟨p.registry.entries.insert (.dataType, n) e⟩ : Registry).isRegistered .dataType m = true
    rw [isRegistered_insert, h.listed m hm, Bool.or_true]

/-- a definition that is built where its name is reserved finishes the name, once all else is finished -/
theorem finishes_record {n : SymbolicName} (d : Definition) (hq : q.registry = p.registry.reserve .dataType n)
    (h : Finishes q r) : Finishes p { r with registry := r.registry.record .dataType n d } := by
  intro m hm hnone
  change (⟨r.registry.entries.insert (.dataType, n) (some d)⟩ : Registry).isRegistered .dataType m = true at hm
  change (⟨r.registry.entries.insert (.dataType, n) (some d)⟩ : Registry).lookUp .dataType m = none at hnone
  rw [lookUp_insert] at hnone
  split at hnone
  · cases hnone
  · rename_i hne
    rw [isRegistered_insert, decide_eq_false hne, Bool.false_or] at hm
    obtain ⟨hreg, hlook⟩ := h m hm hnone
    rw [hq, Registry.reserve] at hreg hlook
    rw [isRegistered_insert, decide_eq_false hne, Bool.false_or] at hreg
    rw [lookUp_insert, if_neg hne] at hlook
    exact ⟨hreg, hlook⟩

theorem Advances.holds {α : Type} {x : Translator α} (h : Advances x) : Holds x p (fun _ q => p.Later q) fun _ => True := by
  have hx := h p
  unfold Holds
  rcases hrun : (x.run p : Except Failure α × Progress) with ⟨e | a, t⟩ <;> rw [hrun] at hx
  · trivial
  · exact hx

/-- a registered name: a known one is answered at once, and a new one is built where it is reserved -/
theorem holds_register {f : Family} {n : SymbolicName} {build : Translator Definition} {Q : SymbolicName → Progress → Prop}
    {E : Failure → Prop} (known : p.registry.isRegistered f n = true → Q n p)
    (new : p.registry.isRegistered f n = false → ∀ q : Progress, q.namer = p.namer → q.document = p.document →
      q.registry = p.registry.reserve f n →
      Holds build q (fun d s => Q n { s with registry := s.registry.record f n d }) E) :
    Holds (register f n build) p Q E :=
  holds_obtain known fun h => Holds.bind (holds_modify (new h _ rfl rfl rfl))

/-- a definition is emitted unless its name is in the design -/
theorem holds_emit (d : Definition) : Holds (emit d) p
    (fun _ q => q.namer = p.namer ∧ q.registry = p.registry ∧ p.document.append d = some q.document)
    fun _ => p.document.contains d.name = true := by
  unfold emit
  refine Holds.bind (holds_get ?_)
  cases happend : p.document.append d with
  | none =>
    refine holds_throw ?_
    cases hcontains : p.document.contains d.name with
    | true => rfl
    | false => cases happend.symm.trans (ModelDocument.append_eq_some_iff.2 ⟨hcontains, rfl⟩)
  | some doc => exact Holds.bind (holds_modify (holds_modify ⟨rfl, rfl, rfl⟩))

theorem Stocked.emitted (h : Stocked p) {d : Definition} (happend : p.document.append d = some q.document)
    (hn : q.namer = p.namer) (hr : q.registry = p.registry) (hd : p.registry.isRegistered .dataType d.name = true) :
    Stocked q where
  named := by
    rw [hn, hr]
    exact h.named
  based := by
    rw [hr]
    exact h.based
  listed := fun n hmem => by
    rw [ModelDocument.contains_append happend, Bool.or_eq_true, decide_eq_true_iff] at hmem
    rw [hr]
    rcases hmem with rfl | hmem
    · exact hd
    · exact h.listed n hmem

theorem Stocked.stocks_dataTypeUnder (h : Stocked p) (t : TypeDef) {base : Translator SymbolicName} (hadvances : Advances base)
    (hbase : ∀ q, Stocked q → Stocks q base) : Stocks p (dataTypeUnder t base) := by
  unfold dataTypeUnder
  refine Holds.bind (holds_nameFor_ok fun n m hname => ?_)
  obtain ⟨hgave, hgrows, -⟩ := Namer.gave_of_nameFor hname
  have hnamed : Stocked { p with namer := m } := h.same ((Namer.grows_see _ _).trans hgrows) rfl rfl
  refine holds_register (fun hknown => ⟨hnamed, .refl p, .inr hknown⟩) fun _ q hnamer hdocument hregistry => ?_
  -- the name is reserved, so it is registered whatever is built for the base
  have hreserved : Stocked q := (hnamed.insert (n := n) (e := none) hgave fun d hd => by cases hd).same (q := q)
    (hnamer ▸ Namer.Grows.refl _) hregistry hdocument
  have hregistered : q.registry.isRegistered .dataType n = true := by
    rw [hregistry, Registry.reserve, isRegistered_insert]
    simp
  refine Holds.bind (((hbase q hreserved).and hadvances.holds).mono (fun b s hs => ?_) fun _ _ => trivial)
  obtain ⟨⟨hs, hfinishes, hb⟩, hlater⟩ := hs
  refine Holds.bind ((holds_emit _).mono (fun _ u hu => holds_pure ?_) fun _ _ => trivial)
  obtain ⟨hn, hreg, happend⟩ := hu
  have hemitted : Stocked u := hs.emitted happend hn hreg (hlater.registered .dataType n hregistered)
  have hgiven : u.namer.Gave (ownerOfType t) TypeRole.dataType.text n := by
    have hq : q.namer = m := hnamer
    rw [hn]
    exact (hq ▸ hgave).mono hlater.namer
  have hfinished : Finishes q u := fun m hm hnone => hfinishes m (hreg ▸ hm) (hreg ▸ hnone)
  refine ⟨hemitted.insert hgiven fun d hd b' fields hcontent => ?_, finishes_record (p := p) _ hregistry hfinished,
    .inr ((isRegistered_insert _ _ _ _ _ _).trans (by simp))⟩
  cases hd
  cases hcontent
  rw [hreg]
  exact hb

theorem stocks_registerDataType (t : TypeDef) : ∀ {p : Progress}, Stocked p → Stocks p (registerDataType t) := by
  induction t using TypeDef.base_induct with
  | step t ih =>
    intro p h
    have hprimitive : ∀ (q : Progress) (k : Kind) (path : List String), Stocked q →
        Stocks q (liftM (primitiveType k path) : Translator SymbolicName) := by
      intro q k path hq
      refine holds_lift (fun n hn => ⟨hq, .refl q, .inl ?_⟩) fun _ _ => trivial
      cases k with
      | builtIn b =>
        cases hn
        exact isStandard_opcName b
      | unknown name => cases hn
    obtain ⟨name, path, kind, base, enums, description⟩ := t
    cases base with
    | none =>
      rw [registerDataType]
      exact h.stocks_dataTypeUnder _ (advances.primitive _ _) fun q hq => hprimitive q kind path hq
    | some b =>
      rw [registerDataType]
      refine h.stocks_dataTypeUnder _ (advances.baseDataType _ b (advances.registerDataType b)) fun q hq => ?_
      unfold baseDataType
      split
      · exact holds_pure ⟨hq, .refl q, .inl (isStandard_builtInName (by decide))⟩
      · split
        · exact hprimitive q b.kind path hq
        · exact ih b rfl hq

/-- **Contexts of requests for data types.** What is registered is built, with a name that was given, over what is built in or
registered; and the design holds nothing else. -/
theorem AfterDataTypes.stocked (h : AfterDataTypes p) : Stocked p ∧
    ∀ n, p.registry.isRegistered .dataType n = true → ∃ d, p.registry.lookUp .dataType n = some d := by
  induction h with
  | start target namespaces => exact ⟨stocked_start target namespaces, fun n hn => by cases hn⟩
  | @ask p q t n _ hrun ih =>
    obtain ⟨hstocked, hbuilt⟩ := ih
    have hstocks : Holds (dataTypeOf t) p (fun _ q => Stocked q ∧ Finishes p q) fun _ => True := by
      unfold dataTypeOf
      split
      · exact holds_lift (fun _ _ => ⟨hstocked, .refl p⟩) fun _ _ => trivial
      · exact Holds.imp (stocks_registerDataType t hstocked) fun _ _ hq => ⟨hq.1, hq.2.1⟩
    obtain ⟨hq, hfinishes⟩ := hstocks.ok hrun
    refine ⟨hq, fun m hm => Option.ne_none_iff_exists'.1 fun hnone => ?_⟩
    obtain ⟨hreg, hlook⟩ := hfinishes m hm hnone
    obtain ⟨d, hd⟩ := hbuilt m hreg
    exact absurd (hd.symm.trans hlook) (by simp)

end YangDesign.Translate
