/-
Resolution that remembers gives the types that a resolution from scratch gives.

`afresh` follows typedefs as `recalled` does, but remembers nothing. While typedefs wait for each other they are different ones
in reach (`Waiting`), so the steps are never spent and `afresh` finds the type of a typedef exactly if it has one
(`afreshWithin_eq_ok_iff`).

`Repeats` compares a computation that remembers with one that does not: from a memory in which every type is right it has the
same answer or the same failure and leaves such a memory. It holds of `recalled` and `afresh`, goes along the walk over the
statements, and so `Document.resolve` is the walk with `afresh` (`Document.resolve_eq`).
-/
import YangDesign.Proofs.Schema.Denotation

namespace YangDesign.Schema

open Relation

/-! ## From scratch -/

/-- the type of a typedef while others are `pending`, with a bound on the steps; nothing is remembered -/
def afreshWithin (env : Surroundings) (spent : Declaration → Resolved TypeDef) :
    Nat → List Declaration → Declaration → Resolved TypeDef
  | 0, _ => spent
  | steps + 1, pending => fun x =>
    if pending.contains x then circular x
    else do
      let inner ← innerType env (afreshWithin env spent steps (x :: pending)) x
      return x.over inner

theorem afreshWithin_succ {env : Surroundings} {spent : Declaration → Resolved TypeDef} {steps : Nat}
    {pending : List Declaration} {x : Declaration} : afreshWithin env spent (steps + 1) pending x =
      if pending.contains x then circular x
      else do
        let inner ← innerType env (afreshWithin env spent steps (x :: pending)) x
        return x.over inner :=
  rfl

/-- the type of a typedef, found from scratch -/
def afresh (env : Surroundings) (x : Declaration) : Resolved TypeDef :=
  afreshWithin env circular (env.stepsFor x) [] x

/-- a typedef stands in the innermost frame of its scope -/
def Declaration.Housed (x : Declaration) : Prop :=
  x.typedef ∈ x.scope.headD []

theorem Frame.housed_of_find? {scope : Scope} {name uri : String} {d : TypedefDecl}
    (h : (scope.headD []).find? name = some d) : Declaration.Housed ⟨d, uri, scope⟩ :=
  List.mem_of_find?_eq_some h

theorem Surroundings.Binds.housed {env : Surroundings} {name uri : String} {scope : Scope} {x : Declaration}
    (h : env.Binds name uri scope x) : x.Housed := by
  have found : ∀ {name : String} {scope s : Scope} {d : TypedefDecl}, lookUp name scope = some (d, s) → d ∈ s.headD [] := by
    intro name scope s d h
    obtain ⟨-, f, fs, rfl, -, hd⟩ := mem_declarations.1 (lookUp_mem_declarations "" h)
    exact hd
  obtain ⟨path, h⟩ := h
  rcases Surroundings.typedefOf_eq_ok_iff.1 h with ⟨-, hd, -⟩ | ⟨-, hd, -⟩ <;> exact found hd

/-- a typedef is asked for in a set closed under what typedefs lead to, while others of the set, all different, wait for it;
more steps are left than there are others -/
structure Waiting (env : Surroundings) (reach : List Declaration) (steps : Nat) (pending : List Declaration)
    (x : Declaration) : Prop where
  mem : x ∈ reach
  closed : ∀ y ∈ reach, ∀ z, Leads env.Binds y z → z ∈ reach
  nodup : pending.Nodup
  subset : pending ⊆ reach
  enough : reach.length < pending.length + steps
  leads : ∀ y ∈ pending, TransGen (Leads env.Binds) y x

namespace Waiting

variable {env : Surroundings} {reach pending : List Declaration} {steps : Nat} {x y : Declaration}

/-- the typedefs in reach suffice for one that stands in its own scope -/
theorem start (hx : x.Housed) (more : Nat) : Waiting env (env.inReach x.uri x.scope) (env.stepsFor x + more) [] x where
  mem := Surroundings.self_mem_inReach hx
  closed := fun _ hy _ h => Surroundings.mem_inReach_of_leads hy h
  nodup := List.nodup_nil
  subset := List.nil_subset _
  enough := by
    rw [Surroundings.stepsFor, List.length_nil]
    omega
  leads := fun _ hy => by cases hy

/-- **Steps are never spent.** Different typedefs of a set are no more than the set has. -/
theorem steps_ne_zero (h : Waiting env reach steps pending x) : steps ≠ 0 := by
  rintro rfl
  have hle := (List.subperm_of_subset h.nodup h.subset).length_le
  have hlt := h.enough
  omega

/-- a typedef that does not wait yet waits for the one that it asks for -/
theorem next (h : Waiting env reach (steps + 1) pending x) (hx : x ∉ pending) (hy : Leads env.Binds x y) :
    Waiting env reach steps (x :: pending) y where
  mem := h.closed x h.mem y hy
  closed := h.closed
  nodup := List.nodup_cons.2 ⟨hx, h.nodup⟩
  subset := List.cons_subset.2 ⟨h.mem, h.subset⟩
  enough := by
    have hlt := h.enough
    rw [List.length_cons]
    omega
  leads := by
    intro z hz
    rcases List.mem_cons.1 hz with rfl | hz
    · exact .single hy
    · exact (h.leads z hz).tail hy

end Waiting

/-- **A typedef is given its type exactly if it has one.** -/
theorem afreshWithin_eq_ok_iff {env : Surroundings} {spent : Declaration → Resolved TypeDef} {reach : List Declaration}
    {steps : Nat} {pending : List Declaration} {x : Declaration} {t : TypeDef} (h : Waiting env reach steps pending x) :
    afreshWithin env spent steps pending x = .ok t ↔ x.Has env.Binds t := by
  induction steps generalizing pending x t with
  | zero => exact absurd rfl h.steps_ne_zero
  | succ steps ih =>
    rw [afreshWithin_succ]
    by_cases hx : x ∈ pending
    · rw [if_pos (by simpa using hx)]
      refine ⟨fun hok => ?_, fun hhas => absurd (h.leads x hx) (hhas.not_leads_back env.binds_functional)⟩
      cases hok
    · rw [if_neg (by simpa using hx), bind_eq_ok_iff]
      refine exists_congr fun inner => and_congr ?_ (by simp [pure, Except.pure, eq_comm])
      rw [innerType, typeOfRef_eq_ok_iff, denotes_iff_gives]
      exact gives_congr fun y hn hy u => ih (h.next hx ⟨hn, hy⟩)

theorem afresh_eq_ok_iff {env : Surroundings} {x : Declaration} (hx : x.Housed) {t : TypeDef} :
    afresh env x = .ok t ↔ x.Has env.Binds t :=
  afreshWithin_eq_ok_iff (Waiting.start hx 0)

/-- a reference is given a type from scratch exactly if it denotes one -/
theorem typeOfRef_afresh_eq_ok_iff {env : Surroundings} {ref : TypeRef} {uri : String} {owner : List String}
    {scope : Scope} {t : TypeDef} :
    typeOfRef env (afresh env) ref uri owner scope = .ok t ↔ Denotes env.Binds ref uri owner scope t := by
  rw [typeOfRef_eq_ok_iff, denotes_iff_gives]
  exact gives_congr fun x _ hx _ => afresh_eq_ok_iff hx.housed

/-! ## With a memory -/

/-- every type in a memory is the one that its typedef has -/
def Memo.Right (env : Surroundings) (memo : Memo) : Prop :=
  ∀ x t, memo.find? x = some t → x.Has env.Binds t

theorem Memo.right_empty (env : Surroundings) : Memo.Right env .empty :=
  fun _ _ h => by cases h

theorem Memo.Right.insert {env : Surroundings} {memo : Memo} (h : memo.Right env) {x : Declaration} {t : TypeDef}
    (hx : x.Has env.Binds t) : Memo.Right env (Assoc.insert memo x t) := by
  intro y u hy
  rw [Assoc.find?_insert] at hy
  split at hy
  · rename_i heq
    cases hy
    exact heq ▸ hx
  · exact h y u hy

/-- from a right memory a computation has the answer or the failure of another, and leaves a right memory -/
def Repeats (env : Surroundings) {α : Type} (run : Remembering α) (plain : Resolved α) : Prop :=
  ∀ memo : Memo, memo.Right env → match plain with
    | .ok a => ∃ memo', run memo = .ok (a, memo') ∧ Memo.Right env memo'
    | .error e => run memo = .error e

namespace Repeats

variable {env : Surroundings} {α β : Type}

theorem pure (a : α) : Repeats env (pure a) (pure a) :=
  fun memo h => ⟨memo, rfl, h⟩

/-- what only answers or fails does so with a memory too -/
theorem lift (plain : Resolved α) : Repeats env (liftM plain) (liftM plain) := by
  intro memo h
  cases plain with
  | ok a => exact ⟨memo, rfl, h⟩
  | error e => rfl

theorem bind {run : Remembering α} {plain : Resolved α} {f : α → Remembering β} {g : α → Resolved β}
    (h : Repeats env run plain) (hf : ∀ a, plain = .ok a → Repeats env (f a) (g a)) :
    Repeats env (run >>= f) (plain >>= g) := by
  intro memo hmemo
  have hrun := h memo hmemo
  cases plain with
  | ok a =>
    obtain ⟨memo', hrun, hmemo'⟩ := hrun
    have hstep : (run >>= f) memo = f a memo' := by
      show Except.bind (run memo) _ = _
      rw [hrun]
      rfl
    rw [hstep]
    exact hf a rfl memo' hmemo'
  | error e =>
    show Except.bind (run memo) _ = _
    rw [hrun]
    rfl

theorem mapM {f : α → Remembering β} {g : α → Resolved β} {as : List α} (h : ∀ a ∈ as, Repeats env (f a) (g a)) :
    Repeats env (as.mapM f) (as.mapM g) := by
  induction as with
  | nil => exact .pure _
  | cons a as ih =>
    obtain ⟨ha, has⟩ := List.forall_mem_cons.1 h
    rw [List.mapM_cons, List.mapM_cons]
    exact .bind ha fun _ _ => .bind (ih has) fun _ _ => .pure _

/-- from the empty memory the answer or the failure is the other one -/
theorem run_empty {run : Remembering α} {plain : Resolved α} (h : Repeats env run plain) : run.run' .empty = plain := by
  have hrun := h .empty (Memo.right_empty env)
  show Functor.map _ (run .empty) = _
  cases plain with
  | ok a =>
    obtain ⟨memo', hrun, -⟩ := hrun
    rw [hrun]
    rfl
  | error e =>
    rw [hrun]
    rfl

end Repeats

/-- references repeat where the typedefs that they ask for do -/
theorem repeats_typeOfRef {env : Surroundings} {typeOf : Declaration → Remembering TypeDef}
    {typeOf' : Declaration → Resolved TypeDef} {ref : TypeRef} {uri : String} {owner : List String} {scope : Scope}
    (h : ∀ x, ref.builtIn? = none → env.Binds ref.name uri scope x → Repeats env (typeOf x) (typeOf' x)) :
    Repeats env (typeOfRef env typeOf ref uri owner scope) (typeOfRef env typeOf' ref uri owner scope) := by
  unfold typeOfRef
  refine .bind (.lift _) fun enums _ => ?_
  split
  · split
    · exact .lift _
    · exact .pure _
  · rename_i hnone
    refine .bind (.lift _) fun x hx => .bind (h x hnone ⟨owner, hx⟩) fun base _ => ?_
    split
    · exact .lift _
    · exact .pure _

theorem recallUnder_run {env : Surroundings} {pending : List Declaration} {typeOf : Declaration → Remembering TypeDef}
    {x : Declaration} (memo : Memo) : recallUnder env pending typeOf x memo = match memo.find? x with
      | some t => .ok (t, memo)
      | none => (if pending.contains x then liftM (circular x)
        else do
          let inner ← innerType env typeOf x
          modify (Assoc.insert · x (x.over inner))
          return x.over inner : Remembering TypeDef) memo := by
  show (match memo.find? x with
    | some t => (pure t : Remembering TypeDef)
    | none => _) memo = _
  cases memo.find? x <;> rfl

/-- **Remembered types are those found from scratch**, whatever the steps are on both sides. -/
theorem repeats_recallWithin {env : Surroundings} {spent : Declaration → Remembering TypeDef}
    {spent' : Declaration → Resolved TypeDef} {reach reach' : List Declaration} {steps steps' : Nat}
    {pending : List Declaration} {x : Declaration} (h : Waiting env reach steps pending x)
    (h' : Waiting env reach' steps' pending x) :
    Repeats env (recallWithin env spent steps pending x) (afreshWithin env spent' steps' pending x) := by
  induction steps generalizing steps' pending x with
  | zero => exact absurd rfl h.steps_ne_zero
  | succ steps ih =>
    cases steps' with
    | zero => exact absurd rfl h'.steps_ne_zero
    | succ steps' =>
      intro memo hmemo
      rw [show recallWithin env spent (steps + 1) pending x memo = _ from recallUnder_run memo]
      cases hfind : memo.find? x with
      | some t =>
        rw [(afreshWithin_eq_ok_iff h').2 (hmemo x t hfind)]
        exact ⟨memo, rfl, hmemo⟩
      | none =>
        have hhas : ∀ t, afreshWithin env spent' (steps' + 1) pending x = .ok t → x.Has env.Binds t :=
          fun _ => (afreshWithin_eq_ok_iff h').1
        rw [afreshWithin_succ] at hhas ⊢
        by_cases hx : x ∈ pending
        · rw [if_pos (by simpa using hx), if_pos (by simpa using hx)]
          rfl
        · rw [if_neg (by simpa using hx)] at hhas ⊢
          rw [if_neg (by simpa using hx)]
          refine Repeats.bind (repeats_typeOfRef fun y hn hy => ih (h.next hx ⟨hn, hy⟩) (h'.next hx ⟨hn, hy⟩)) ?_ memo hmemo
          intro inner hinner memo' hmemo'
          exact ⟨_, rfl, hmemo'.insert (hhas _ (bind_eq_ok_iff.2 ⟨inner, hinner, rfl⟩))⟩

/-- more steps than suffice change nothing, and no answer is one of spent steps -/
theorem repeats_afresh {env : Surroundings} {spent : Declaration → Remembering TypeDef} {x : Declaration} (hx : x.Housed)
    (more : Nat) : Repeats env (recallWithin env spent (env.stepsFor x + more) [] x) (afresh env x) :=
  repeats_recallWithin (Waiting.start hx more) (Waiting.start hx 0)

/-! ## Along the walk -/

/-- the types of typedefs that are found with a memory are those found without one -/
def Agree (env : Surroundings) (typeOf : Declaration → Remembering TypeDef) (typeOf' : Declaration → Resolved TypeDef) :
    Prop :=
  ∀ x : Declaration, x.Housed → Repeats env (typeOf x) (typeOf' x)

section Walk

variable {env : Surroundings} {typeOf : Declaration → Remembering TypeDef} {typeOf' : Declaration → Resolved TypeDef}

theorem repeats_resolveConstruct (h : Agree env typeOf typeOf') (uri : String) (path : List String) (scope : Scope) (name : String)
    (children : List Node) (construct : Construct) :
    Repeats env (resolveConstruct env typeOf uri path scope name children construct)
      (resolveConstruct env typeOf' uri path scope name children construct) := by
  have href : ∀ type, Repeats env (typeOfRef env typeOf type uri path scope) (typeOfRef env typeOf' type uri path scope) :=
    fun type => repeats_typeOfRef fun x _ hx => h x hx.housed
  unfold resolveConstruct
  cases construct with
  | container | choice | case => exact .pure _
  | list key => exact .bind (.lift _) fun _ _ => .pure _
  | leaf type | leafList type => exact .bind (href type) fun _ _ => .pure _
  | typedef type =>
    dsimp only
    split
    · rename_i d hd
      exact .bind (h _ (Frame.housed_of_find? hd)) fun _ _ => .pure _
    · exact .lift _
  | identity bases => exact .bind (.lift _) fun _ _ => .pure _

mutual

theorem repeats_resolveStatement (h : Agree env typeOf typeOf') (uri : String) : ∀ (s : Statement) (parent : List String) (scope : Scope),
    Repeats env (resolveStatement env typeOf uri parent scope s) (resolveStatement env typeOf' uri parent scope s)
  | .other keyword argument, parent, scope => by
    unfold resolveStatement
    exact .pure _
  | .named name description construct children, parent, scope => by
    have hkind := fun nodes => repeats_resolveConstruct h uri (parent ++ [name]) scope name nodes construct
    unfold resolveStatement
    cases construct with
    | choice =>
      exact .bind (repeats_resolveCases h uri children _ scope) fun nodes _ => .bind (hkind nodes) fun _ _ => .pure _
    | container | list key | case =>
      refine .bind (.lift _) fun frame _ => ?_
      exact .bind (repeats_resolveStatements h uri children _ _) fun nodes _ => .bind (hkind nodes) fun _ _ => .pure _
    | leaf type | leafList type | typedef type | identity bases =>
      exact .bind (.pure _) fun nodes _ => .bind (hkind nodes) fun _ _ => .pure _

theorem repeats_resolveStatements (h : Agree env typeOf typeOf') (uri : String) : ∀ (ss : List Statement) (parent : List String) (scope : Scope),
    Repeats env (resolveStatements env typeOf uri parent scope ss) (resolveStatements env typeOf' uri parent scope ss)
  | [], parent, scope => by
    unfold resolveStatements
    exact .pure _
  | s :: ss, parent, scope => by
    unfold resolveStatements
    refine .bind (repeats_resolveStatement h uri s parent scope) fun n _ => ?_
    exact .bind (repeats_resolveStatements h uri ss parent scope) fun ns _ => .pure _

theorem repeats_resolveCases (h : Agree env typeOf typeOf') (uri : String) : ∀ (ss : List Statement) (choice : List String) (scope : Scope),
    Repeats env (resolveCases env typeOf uri choice scope ss) (resolveCases env typeOf' uri choice scope ss)
  | [], choice, scope => by
    simp only [resolveCases]
    exact .pure _
  | .other keyword argument :: ss, choice, scope => by
    simp only [resolveCases]
    exact repeats_resolveCases h uri ss choice scope
  | .named name description construct children :: ss, choice, scope => by
    have hrest := repeats_resolveCases h uri ss choice scope
    cases construct with
    | case =>
      simp only [resolveCases]
      refine .bind (.lift _) fun frame _ => ?_
      exact .bind (repeats_resolveStatements h uri children _ _) fun nodes _ => .bind hrest fun _ _ => .pure _
    | container | list _ | leaf _ | leafList _ | choice | typedef _ | identity _ =>
      simp only [resolveCases]
      exact .bind (repeats_resolveStatement h uri _ _ scope) fun node _ => .bind hrest fun _ _ => .pure _

end

theorem repeats_resolveModule (h : Agree env typeOf typeOf') (md : ModuleDecl) :
    Repeats env (resolveModule env typeOf md) (resolveModule env typeOf' md) := by
  unfold resolveModule
  exact .bind (repeats_resolveStatements h md.namespaceUri md.statements _ _) fun _ _ => .pure _

end Walk

/-- a document resolves from the empty memory as it does without one -/
theorem Document.run_resolveWith {typeOf : Surroundings → Declaration → Remembering TypeDef}
    {typeOf' : Surroundings → Declaration → Resolved TypeDef}
    (h : ∀ env, Agree env (typeOf env) (typeOf' env)) (d : Document) :
    (d.resolveWith typeOf).run' .empty = d.resolveWith typeOf' := by
  unfold Document.resolveWith
  cases hs : d.surroundings with
  | error e => rfl
  | ok env => exact (Repeats.bind (Repeats.mapM fun m _ => repeats_resolveModule (h env) m) fun _ _ => .pure _).run_empty

/-- **What is remembered does not matter.** A document resolves to the tree of types found from scratch. -/
theorem Document.resolve_eq (d : Document) : d.resolve = d.resolveWith afresh :=
  d.run_resolveWith fun _ _ hx => repeats_afresh hx 0

end YangDesign.Schema
