/-
Typedefs that resolution does not find.

A typedef statement is looked up by its name among the typedefs of one statement list: the list that it stands in; the list
around the choice, if it stands directly among its cases; the list of the last module of its namespace, if it stands at the
top of a module. A typedef that this list does not declare is a stray.

`Document.resolve_strays`: a document without strays resolves or fails with a cause at a path; one with strays does not
resolve, and what it may fail with instead is its first stray. Where no two modules share a namespace and no typedef stands
directly among the cases of a choice, there are none.
-/
import YangDesign.Proofs.Schema.StaticScope

namespace YangDesign.Schema

/-! ## Strays -/

/-- the names of the typedefs that a statement list declares -/
def declaredNames (ss : List Statement) : List String :=
  (declaredIn [] ss).map (·.name)

mutual

/-- the strays in a statement, where names are looked up among the `declared` ones -/
def Statement.strays (declared : List String) : Statement → List String
  | .other .. => []
  | .named name _ construct children =>
    match construct with
    | .choice => straysIn declared children
    | .container | .list _ | .case => straysIn (declaredNames children) children
    | .typedef _ => if name ∈ declared then [] else [name]
    | .leaf _ | .leafList _ | .identity _ => []

/-- the strays in a statement list or among the cases of a choice -/
def straysIn (declared : List String) : List Statement → List String
  | [] => []
  | s :: ss => s.strays declared ++ straysIn declared ss

end

namespace Document

/-- the names that are looked up at the top of a namespace: those of its last module -/
def declaredNames (d : Document) (uri : String) : List String :=
  ((d.modules.reverse.find? (·.namespaceUri == uri)).map fun m => Schema.declaredNames m.statements).getD []

/-- the strays of a document, in its order -/
def strays (d : Document) : List String :=
  d.modules.flatMap fun m => straysIn (d.declaredNames m.namespaceUri) m.statements

end Document

theorem map_name_declaredIn (path : List String) (ss : List Statement) :
    (declaredIn path ss).map (·.name) = declaredNames ss := by
  have hname : ∀ (s : Statement) (p : List String), (s.typedef? p).map (·.name) = (s.typedef? []).map (·.name) := by
    intro s p
    unfold Statement.typedef?
    split <;> rfl
  unfold declaredNames declaredIn
  rw [List.map_filterMap, List.map_filterMap]
  exact List.filterMap_congr fun s _ => hname s path

/-! ## What a step meets -/

/-- an answer is given where there are no strays, and a typedef that is not found is the first of them -/
def Meets {α : Type} (strays : List String) (x : Resolved α) : Prop :=
  Outcome x (fun _ => strays = []) fun e => ∀ name, e = .undeclared name → strays.head? = some name

namespace Meets

variable {α β : Type} {us vs : List String} {x : Resolved α}

theorem pure (a : α) : Meets [] (pure a : Resolved α) :=
  Outcome.pure rfl

/-- what fails with a fault of a document has nothing to do with strays -/
theorem of_fault {d : Document} (h : Outcome x (fun _ => True) d.Fault) : Meets [] x := by
  refine (h.imp fun _ _ => rfl).weaken fun e he name hname => ?_
  subst hname
  exact he.elim

theorem bind {f : α → Resolved β} (h : Meets us x) (hf : ∀ a, x = .ok a → Meets vs (f a)) :
    Meets (us ++ vs) (x >>= f) := by
  cases x with
  | ok a =>
    rw [show us = [] from h]
    exact hf a rfl
  | error e =>
    intro name hname
    have hfirst : us.head? = some name := h name hname
    rw [List.head?_append, hfirst]
    rfl

/-- a step after the last one that may meet a stray -/
theorem andThen {f : α → Resolved β} (h : Meets us x) (hf : ∀ a, x = .ok a → Meets [] (f a)) : Meets us (x >>= f) := by
  rw [← List.append_nil us]
  exact h.bind hf

/-- a step before the first one that may meet a stray -/
theorem after {f : α → Resolved β} (h : Meets [] x) (hf : ∀ a, x = .ok a → Meets vs (f a)) : Meets vs (x >>= f) :=
  h.bind hf

end Meets

section Walk

variable {d : Document} {env : Surroundings}

theorem meets_typeOfRef {typeOf : Declaration → Resolved TypeDef} (h : ∀ x, Meets [] (typeOf x)) {ref : TypeRef}
    {uri : String} {owner : List String} {scope : Scope} : Meets [] (typeOfRef env typeOf ref uri owner scope) := by
  -- any document will do: its faults are causes at paths
  have hfault : ∀ e, Document.Fault ⟨[]⟩ e → ∀ name, e = .undeclared name → ([] : List String).head? = some name := by
    rintro e he name rfl
    exact he.elim
  exact (Document.outcome_typeOfRef hfault fun x _ _ => h x).imp fun _ _ => rfl

/-- a typedef that is found leads to no stray -/
theorem meets_afresh (x : Declaration) : Meets [] (afresh env x) := by
  have within : ∀ steps pending x, Meets [] (afreshWithin env circular steps pending x) := by
    intro steps
    induction steps with
    | zero => exact fun _ _ _ hname => by cases hname
    | succ steps ih =>
      intro pending x
      rw [afreshWithin_succ]
      split
      · exact fun _ hname => by cases hname
      · exact (meets_typeOfRef fun y => ih (x :: pending) y).andThen fun _ _ => .pure _
  exact within _ _ x

/-- a construct is a stray exactly if it is a typedef whose name is not found in the innermost frame -/
theorem meets_resolveConstruct (uri : String) (path : List String) (scope : Scope) (name : String)
    (children : List Node) (construct : Construct) :
    Meets (match construct with
      | .typedef _ => if name ∈ (scope.headD []).map (·.name) then [] else [name]
      | _ => []) (resolveConstruct env (afresh env) uri path scope name children construct) := by
  unfold resolveConstruct
  cases construct with
  | container | choice | case => exact .pure _
  | list key => exact (Meets.of_fault (Document.outcome_checkKeys (d := ⟨[]⟩))).andThen fun _ _ => .pure _
  | leaf type | leafList type => exact (meets_typeOfRef meets_afresh).andThen fun _ _ => .pure _
  | typedef type =>
    dsimp only
    cases hfind : (scope.headD []).find? name with
    | some t =>
      have hname : t.name = name := by simpa using List.find?_some hfind
      rw [if_pos (List.mem_map.2 ⟨t, List.mem_of_find?_eq_some hfind, hname⟩)]
      exact (meets_afresh _).andThen fun _ _ => .pure _
    | none =>
      have hnot : name ∉ (scope.headD []).map (·.name) := by simpa using Frame.find?_eq_none_iff.1 hfind
      rw [if_neg hnot]
      intro name' hname'
      cases hname'
      rfl
  | identity bases =>
    refine Meets.andThen (.of_fault (d := ⟨[]⟩) ?_) fun _ _ => .pure _
    exact Document.outcome_mapM (fun _ => Document.outcome_resolveBase) bases

mutual

theorem meets_resolveStatement (uri : String) : ∀ (s : Statement) (parent : List String) (scope : Scope),
    Meets (s.strays ((scope.headD []).map (·.name))) (resolveStatement env (afresh env) uri parent scope s)
  | .other keyword argument, parent, scope => by
    unfold resolveStatement
    exact .pure _
  | .named name description construct children, parent, scope => by
    have hkind := fun nodes => @meets_resolveConstruct env uri (parent ++ [name]) scope name nodes construct
    rw [resolveStatement_named]
    unfold Statement.strays
    cases construct with
    | choice =>
      refine (meets_resolveCases uri children _ scope).andThen fun nodes _ => ?_
      exact (hkind nodes).andThen fun _ _ => .pure _
    | container | list key | case =>
      simp only [resolveBelow, bind_assoc]
      refine (Meets.of_fault ((Document.outcome_openFrame (d := ⟨[]⟩)).imp fun _ _ => trivial)).after fun frame hframe => ?_
      obtain ⟨rfl, -⟩ := openFrame_eq_ok_iff.1 hframe
      rw [← map_name_declaredIn (parent ++ [name]) children]
      refine (meets_resolveStatements uri children _ (_ :: scope)).andThen fun nodes _ => ?_
      exact (hkind nodes).andThen fun _ _ => .pure _
    | leaf type | leafList type | typedef type | identity bases => exact (hkind []).andThen fun _ _ => .pure _

theorem meets_resolveStatements (uri : String) : ∀ (ss : List Statement) (parent : List String) (scope : Scope),
    Meets (straysIn ((scope.headD []).map (·.name)) ss) (resolveStatements env (afresh env) uri parent scope ss)
  | [], parent, scope => by
    unfold resolveStatements
    exact .pure _
  | s :: ss, parent, scope => by
    rw [resolveStatements, straysIn]
    refine (meets_resolveStatement uri s parent scope).bind fun n _ => ?_
    exact (meets_resolveStatements uri ss parent scope).andThen fun _ _ => .pure _

theorem meets_resolveCases (uri : String) : ∀ (ss : List Statement) (choice : List String) (scope : Scope),
    Meets (straysIn ((scope.headD []).map (·.name)) ss) (resolveCases env (afresh env) uri choice scope ss)
  | [], choice, scope => by
    simp only [resolveCases]
    exact .pure _
  | s :: ss, choice, scope => by
    rw [resolveCases_cons, straysIn]
    refine (meets_resolveStatement uri s _ scope).bind fun n _ => ?_
    exact (meets_resolveCases uri ss choice scope).andThen fun _ _ => .pure _

end

end Walk

/-! ## Documents without strays -/

mutual

theorem strays_eq_nil : ∀ (s : Statement) (declared : List String), (∀ x ∈ s.all, x.casesPlain = true) →
    (∀ t, s.typedef? [] = some t → t.name ∈ declared) → s.strays declared = []
  | .other keyword argument, declared, _, _ => rfl
  | .named name description construct children, declared, hplain, hdeclared => by
    have hbelow : ∀ x ∈ Statement.allIn children, x.casesPlain = true := fun x hx =>
      hplain x (by rw [Statement.all]; exact List.mem_cons_of_mem _ hx)
    unfold Statement.strays
    cases construct with
    | choice =>
      have hcases : ∀ s ∈ children, s.isTypedef = false := by
        simpa [Statement.casesPlain] using hplain _ (Statement.mem_all_self _)
      refine straysIn_eq_nil children declared hbelow fun s hs t ht => ?_
      rw [Statement.typedef?_eq_none (hcases s hs)] at ht
      cases ht
    | container | list key | case =>
      refine straysIn_eq_nil children _ hbelow fun s hs t ht => List.mem_map_of_mem ?_
      exact List.mem_filterMap.2 ⟨s, hs, ht⟩
    | typedef type => exact if_pos (hdeclared _ rfl)
    | leaf type | leafList type | identity bases => rfl

theorem straysIn_eq_nil : ∀ (ss : List Statement) (declared : List String),
    (∀ x ∈ Statement.allIn ss, x.casesPlain = true) → (∀ s ∈ ss, ∀ t, s.typedef? [] = some t → t.name ∈ declared) →
    straysIn declared ss = []
  | [], declared, _, _ => by rw [straysIn]
  | s :: ss, declared, hplain, hdeclared => by
    rw [Statement.allIn, List.forall_mem_append] at hplain
    obtain ⟨hs, hss⟩ := List.forall_mem_cons.1 hdeclared
    rw [straysIn, strays_eq_nil s declared hplain.1 hs, straysIn_eq_nil ss declared hplain.2 hss]
    rfl

end

namespace Document

variable {d : Document} {env : Surroundings}

/-- the names that are looked up at the top of a namespace are those that its frame has -/
theorem declaredNames_eq (h : d.surroundings = .ok env) (uri : String) :
    d.declaredNames uri = ((env.frames.find? uri).getD []).map (·.name) := by
  rw [(offers_of_foldlM h).2.1, declaredNames]
  cases d.modules.reverse.find? (·.namespaceUri == uri) <;> rfl

/-- where namespaces are distinct, the names that are looked up at the top of a module are its own -/
theorem declaredNames_of_apart (hd : d.Apart) {m : ModuleDecl} (hm : m ∈ d.modules) :
    d.declaredNames m.namespaceUri = Schema.declaredNames m.statements := by
  unfold declaredNames
  rw [find?_reverse_of_apart hd hm]
  rfl

theorem meets_resolve (d : Document) : Meets d.strays d.resolve := by
  rw [Document.resolve_eq]
  refine (Meets.of_fault outcome_surroundings).after fun env (h : d.surroundings = .ok env) => ?_
  have along : ∀ ms : List ModuleDecl, Meets (ms.flatMap fun m => straysIn (d.declaredNames m.namespaceUri) m.statements)
      (ms.mapM (resolveModule env (afresh env))) := by
    intro ms
    induction ms with
    | nil => exact .pure _
    | cons m ms ih =>
      rw [List.mapM_cons, List.flatMap_cons, declaredNames_eq h]
      refine Meets.bind ?_ fun _ _ => ih.andThen fun _ _ => .pure _
      exact (meets_resolveStatements m.namespaceUri m.statements [] [_]).andThen fun _ _ => .pure _
  exact (along d.modules).andThen fun _ _ => .pure _

/-- **A typedef that is not found is the only failure without a path, and where it comes from.** A document without strays
resolves or is refused with a cause at a path. One with strays does not resolve; what is not found is the first of them. None
is there where namespaces are distinct and no typedef stands directly among the cases of a choice. -/
theorem resolve_strays (d : Document) :
    (d.strays = [] → (∃ t, d.resolve = .ok t) ∨ ∃ cause path, d.resolve = .error (.unresolved cause path)) ∧
    (d.strays ≠ [] → ∀ t, d.resolve ≠ .ok t) ∧
    (∀ name, d.resolve = .error (.undeclared name) → d.strays.head? = some name) ∧
    (d.Apart → d.CasesPlain → d.strays = []) := by
  have hmeets := d.meets_resolve
  refine ⟨fun hnone => ?_, fun hsome t ht => hsome (hmeets.answered ht), fun name hname => hmeets.failed hname name rfl,
    fun hd hplain => List.flatMap_eq_nil_iff.2 fun m hm => ?_⟩
  · cases h : d.resolve with
    | ok t => exact .inl ⟨t, rfl⟩
    | error e =>
      cases e with
      | unresolved cause path => exact .inr ⟨cause, path, rfl⟩
      | undeclared name =>
        have hfirst := hmeets.failed h name rfl
        rw [hnone] at hfirst
        cases hfirst
  · rw [declaredNames_of_apart hd hm]
    refine straysIn_eq_nil _ _ (hplain m hm) fun s hs t ht => List.mem_map_of_mem ?_
    exact List.mem_filterMap.2 ⟨s, hs, ht⟩

/-- a typedef as a case of its own, in a choice at the top of a module -/
def loneTypedef : Document :=
  ⟨[⟨"m", "urn:m", "m", none, [
      .named "c" none .choice [.named "t" none (.typedef (.mk "string" none none)) []]]⟩]⟩

/-- its typedef is not found -/
theorem loneTypedef_undeclared : loneTypedef.Apart ∧ loneTypedef.resolve = .error (.undeclared "t") ∧
    loneTypedef.strays.head? = some "t" ∧ ∀ t, loneTypedef.resolve ≠ .ok t := by
  obtain ⟨-, hnot, hfirst, -⟩ := resolve_strays loneTypedef
  exact ⟨by decide, rfl, hfirst "t" rfl, hnot (by decide)⟩

end Document

end YangDesign.Schema
