/-
Sequences of requests for names, answered and refused in any mixture.

`log` lists the requests of a sequence with their answers. What a sequence has done is told by its log alone (`Logged`): the
namespaces are those of the requests in the order in which they first occur, and the owners are those of the answered
requests. `Logged.step` is the step, `Logged.run` the run, and `Logged.name` and `Logged.clash_iff` read the answers off the
log. The text a request comes to depends on the sequence only (`NameRequest.text`), so that a name tells its owner and its role
(`log_injective`), although neither the separator of paths nor the spelling of characters does.
-/
import YangDesign.Proofs.Translate.Names

namespace YangDesign.Translate

open Design

/-- a request for a name: the node it is for, and the role -/
structure NameRequest where
  owner : Owner
  role : String
  deriving DecidableEq, Repr

/-- a request and its answer -/
abbrev LogEntry := NameRequest × Except NamingFault SymbolicName

/-- the namespaces of requests, each where it first occurs -/
def seenBy (qs : List NameRequest) : List String :=
  (qs.map (·.owner.namespaceUri)).eraseDups

/-- the identifier that a request of a sequence comes to; namespaces are numbered as they first occur in the sequence -/
def NameRequest.text (qs : List NameRequest) (q : NameRequest) : String :=
  symbolText (numberedPrefix ((seenBy qs).idxOf q.owner.namespaceUri) ++ "___".intercalate q.owner.path ++ q.role)

theorem seenBy_append (qs qs' : List NameRequest) : seenBy qs <+: seenBy (qs ++ qs') := by
  rw [seenBy, seenBy, List.map_append, List.eraseDups_append]
  exact List.prefix_append _ _

theorem seenBy_concat (qs : List NameRequest) (q : NameRequest) :
    seenBy (qs ++ [q]) =
      if q.owner.namespaceUri ∈ seenBy qs then seenBy qs else seenBy qs ++ [q.owner.namespaceUri] := by
  simp only [seenBy, List.map_append, List.map_singleton, List.eraseDups_append, List.mem_eraseDups]
  split
  · rename_i h
    rw [List.removeAll, List.filter_singleton, List.elem_eq_true_of_mem h]
    simp
  · rename_i h
    have hc : (qs.map (·.owner.namespaceUri)).elem q.owner.namespaceUri = false := by simpa using h
    rw [List.removeAll, List.filter_singleton, hc]
    simp [List.eraseDups_cons]

/-- the text of a request is settled with the requests up to it -/
theorem NameRequest.text_append {qs : List NameRequest} {q : NameRequest} (h : q.owner.namespaceUri ∈ seenBy qs)
    (qs' : List NameRequest) : q.text (qs ++ qs') = q.text qs := by
  obtain ⟨uris, huris⟩ := seenBy_append qs qs'
  rw [text, text, ← huris, List.idxOf_append_of_mem h]

namespace Namer

/-- the namer after requests in turn -/
def after (n : Namer) : List NameRequest → Namer
  | [] => n
  | q :: qs => (n.nameFor q.owner q.role).2.after qs

/-- requests in turn, each with its answer -/
def log (n : Namer) : List NameRequest → List LogEntry
  | [] => []
  | q :: qs => (q, (n.nameFor q.owner q.role).1) :: (n.nameFor q.owner q.role).2.log qs

/-- an entry of a log is the answer to a request after the requests before it -/
theorem log_split {n : Namer} {qs : List NameRequest} {before later : List LogEntry} {q : NameRequest}
    {a : Except NamingFault SymbolicName} (h : n.log qs = before ++ (q, a) :: later) :
    ∃ qs₁ qs₂, qs = qs₁ ++ q :: qs₂ ∧ n.log qs₁ = before ∧ ((n.after qs₁).nameFor q.owner q.role).1 = a := by
  induction before generalizing n qs with
  | nil =>
    cases qs with
    | nil => cases h
    | cons q' qs =>
      rw [log, List.nil_append, List.cons.injEq, Prod.mk.injEq] at h
      obtain ⟨⟨rfl, ha⟩, -⟩ := h
      exact ⟨[], qs, rfl, rfl, ha⟩
  | cons e before ih =>
    cases qs with
    | nil => cases h
    | cons q' qs =>
      rw [log, List.cons_append, List.cons.injEq] at h
      obtain ⟨rfl, hrest⟩ := h
      obtain ⟨qs₁, qs₂, rfl, hlog, ha⟩ := ih hrest
      refine ⟨q' :: qs₁, qs₂, rfl, by rw [log, hlog], ?_⟩
      rw [after]
      exact ha

/-! ## What a log says about the namer -/

/-- the namer `n` has answered the requests `qs` with the log `l`, and no others -/
structure Logged (uri : String) (qs : List NameRequest) (l : List LogEntry) (n : Namer) : Prop where
  target : n.target = uri
  namespaces : n.namespaces = seenBy qs
  /-- the answered requests got names for their owners, which are identifiers -/
  gave : ∀ q s, (q, .ok s) ∈ l → n.Gave q.owner q.role s ∧ Text.isSymbol s.name = true
  /-- only the owner of an answered request owns a name -/
  answered : ∀ name o, n.owners.find? name = some o → ∃ q, q.owner = o ∧ (q, .ok ⟨uri, name⟩) ∈ l

theorem logged_new (uri : String) : Logged uri [] [] (new uri) where
  target := rfl
  namespaces := rfl
  gave := fun _ _ h => nomatch h
  answered := fun _ _ h => nomatch h

section Logged

variable {uri : String} {qs : List NameRequest} {l : List LogEntry} {n : Namer}

theorem Logged.namespaces_see (h : Logged uri qs l n) (q : NameRequest) :
    (n.see q.owner.namespaceUri).namespaces = seenBy (qs ++ [q]) := by
  rw [seenBy_concat, ← h.namespaces, Namer.see]
  simp only [List.contains_iff_mem]
  split <;> rfl

theorem Logged.owners_see (h : Logged uri qs l n) (q : NameRequest) :
    (n.see q.owner.namespaceUri).target = uri ∧ (n.see q.owner.namespaceUri).owners = n.owners := by
  rw [Namer.see]
  split <;> exact ⟨h.target, rfl⟩

theorem Logged.spelling (h : Logged uri qs l n) (q : NameRequest) :
    (n.see q.owner.namespaceUri).spelling q.owner q.role = q.text (qs ++ [q]) := by
  rw [Namer.spelling, h.namespaces_see, NameRequest.text]

/-- the step: one more request -/
theorem Logged.step (h : Logged uri qs l n) {q : NameRequest} {a : Except NamingFault SymbolicName} {m : Namer}
    (hr : n.nameFor q.owner q.role = (a, m)) : Logged uri (qs ++ [q]) (l ++ [(q, a)]) m := by
  have hgrows : n.Grows m := by simpa [hr] using grows_nameFor n q.owner q.role
  have hnamespaces : m.namespaces = (n.see q.owner.namespaceUri).namespaces := by
    simpa [hr] using namespaces_nameFor n q.owner q.role
  refine ⟨hgrows.target.trans h.target, hnamespaces.trans (h.namespaces_see q), fun q' s hs => ?_, fun name o ho => ?_⟩
  · rcases List.mem_append.1 hs with hold | hnew
    · exact ⟨(h.gave q' s hold).1.mono hgrows, (h.gave q' s hold).2⟩
    · obtain ⟨rfl, rfl⟩ := Prod.mk.inj (List.mem_singleton.1 hnew)
      exact ⟨(gave_of_nameFor hr).1, isSymbol_of_nameFor hr⟩
  · obtain ⟨htarget, howners⟩ := h.owners_see q
    have hold : n.owners.find? name = some o → ∃ q', q'.owner = o ∧ (q', .ok ⟨uri, name⟩) ∈ l ++ [(q, a)] := fun hin =>
      let ⟨q', hq', hl⟩ := h.answered name o hin
      ⟨q', hq', List.mem_append_left _ hl⟩
    -- only the last case adds an owner, under the name that it answers
    rcases nameFor_cases n q.owner q.role with ⟨-, hr'⟩ | ⟨o', -, -, hr'⟩ | ⟨-, hr'⟩ | ⟨-, hr'⟩ <;>
      obtain ⟨rfl, rfl⟩ := Prod.mk.inj (hr.symm.trans hr')
    · exact hold (howners ▸ ho)
    · exact hold (howners ▸ ho)
    · exact hold (howners ▸ ho)
    · dsimp only at ho
      rw [howners, Assoc.find?_insert] at ho
      split at ho
      · rename_i hname
        refine ⟨q, (Option.some.inj ho).symm ▸ rfl, List.mem_append_right _ (List.mem_singleton.2 ?_)⟩
        rw [symbol, htarget, hname]
      · exact hold ho

/-- the run: requests in turn -/
theorem Logged.run (h : Logged uri qs l n) (qs' : List NameRequest) :
    Logged uri (qs ++ qs') (l ++ n.log qs') (n.after qs') := by
  induction qs' generalizing qs l n with
  | nil => simpa [log, after] using h
  | cons q qs' ih =>
    rcases hr : n.nameFor q.owner q.role with ⟨a, m⟩
    rw [log, after, hr]
    simpa using ih (h.step hr)

/-- the namer that has answered a log -/
theorem logged_log (uri : String) (qs : List NameRequest) :
    Logged uri qs ((new uri).log qs) ((new uri).after qs) := by
  simpa using (logged_new uri).run qs

/-- a name that was given out is the text of its request -/
theorem Logged.name (h : Logged uri qs l n) {q : NameRequest} {s : SymbolicName} (hs : (q, .ok s) ∈ l) :
    s = ⟨uri, q.text qs⟩ := by
  rw [(h.gave q s hs).1.spelled, symbol, h.target, Namer.spelling, h.namespaces, NameRequest.text]

/-- a request is refused as a clash exactly if its text was the answer to an earlier request for another owner -/
theorem Logged.clash_iff (h : Logged uri qs l n) (q : NameRequest) {name : String} {path other : List String} :
    (n.nameFor q.owner q.role).1 = .error (.clash name path other) ↔
      name = q.text (qs ++ [q]) ∧ path = q.owner.path ∧
        ∃ q', (q', .ok ⟨uri, name⟩) ∈ l ∧ q'.owner ≠ q.owner ∧ q'.owner.path = other := by
  obtain ⟨-, howners⟩ := h.owners_see q
  have hcases := nameFor_cases n q.owner q.role
  simp only [howners, h.spelling q] at hcases
  constructor
  · intro hclash
    rcases hcases with ⟨-, hr⟩ | ⟨o', hne, ho, hr⟩ | ⟨-, hr⟩ | ⟨-, hr⟩ <;>
      simp only [hr, reduceCtorEq, Except.error.injEq, NamingFault.clash.injEq] at hclash
    obtain ⟨rfl, rfl, rfl⟩ := hclash
    obtain ⟨q', rfl, hin⟩ := h.answered _ _ ho
    exact ⟨rfl, rfl, q', hin, hne, rfl⟩
  · rintro ⟨rfl, rfl, q', hin, hne, rfl⟩
    obtain ⟨hgave, hsymbol⟩ := h.gave q' _ hin
    have howned : n.owners.find? (q.text (qs ++ [q])) = some q'.owner := hgave.owned
    rcases hcases with ⟨hno, -⟩ | ⟨o', -, ho, hr⟩ | ⟨ho, -⟩ | ⟨ho, -⟩
    · exact absurd (hno.symm.trans hsymbol) (by decide)
    · rw [hr, Option.some.inj (howned.symm.trans ho)]
    · exact absurd (Option.some.inj (howned.symm.trans ho)) hne
    · cases howned.symm.trans ho

end Logged

/-! ## Any sequence of requests -/

/-- **Names are injective.** In any sequence of requests, answered and refused in any mixture: an answer is the text of the
request in the target namespace; equal answers are for one namespace, one path and roles that are spelled alike; a request is refused as a clash
exactly if its text was the answer to an earlier request for another namespace or path; and what was answered once is answered
again. -/
theorem log_injective (uri : String) (qs : List NameRequest) :
    let l := (new uri).log qs
    (∀ q s, (q, .ok s) ∈ l → s = ⟨uri, q.text qs⟩) ∧
    (∀ q q' s, (q, .ok s) ∈ l → (q', .ok s) ∈ l →
      q.owner.namespaceUri = q'.owner.namespaceUri ∧ q.owner.path = q'.owner.path ∧
        symbolText q.role = symbolText q'.role) ∧
    ∀ before q a later, l = before ++ (q, a) :: later →
      (∀ name path other, a = .error (.clash name path other) ↔
        name = q.text qs ∧ path = q.owner.path ∧
          ∃ q', (q', .ok ⟨uri, name⟩) ∈ before ∧ q'.owner ≠ q.owner ∧ q'.owner.path = other) ∧
      ∀ s, (q, .ok s) ∈ before → a = .ok s := by
  intro l
  have hlogged : Logged uri qs l _ := logged_log uri qs
  refine ⟨fun q s hs => hlogged.name hs, fun q q' s hs hs' => ?_, fun before q a later hl => ?_⟩
  · have hgave := (hlogged.gave q s hs).1
    have hgave' := (hlogged.gave q' s hs').1
    have howner := hgave.owner_unique hgave'
    exact ⟨congrArg _ howner, congrArg _ howner, hgave.role_unique hgave'⟩
  · obtain ⟨qs₁, qs₂, rfl, rfl, rfl⟩ := log_split hl
    have hbefore := logged_log uri qs₁
    refine ⟨fun name path other => ?_, fun s hs => ?_⟩
    · have hseen : q.owner.namespaceUri ∈ seenBy (qs₁ ++ [q]) := by
        rw [← hbefore.namespaces_see q]
        exact mem_see _ _
      have htext : q.text (qs₁ ++ q :: qs₂) = q.text (qs₁ ++ [q]) := by
        rw [← NameRequest.text_append hseen qs₂, List.append_assoc, List.singleton_append]
      rw [htext]
      exact hbefore.clash_iff q
    · obtain ⟨hgave, hsymbol⟩ := hbefore.gave q s hs
      rw [nameFor_of_gave hgave hsymbol]

/-- the paths `a/b` and `a___b` meet in one text, which stays with the first of them -/
theorem log_injective_separator :
    let nested : NameRequest := ⟨⟨"urn:a", ["a", "b"]⟩, "LeafType"⟩
    let joined : NameRequest := ⟨⟨"urn:a", ["a___b"]⟩, "LeafType"⟩
    (new "urn:t").log [nested, joined, nested] =
      [(nested, .ok ⟨"urn:t", "ns0__a___bLeafType"⟩),
        (joined, .error (.clash "ns0__a___bLeafType" ["a___b"] ["a", "b"])),
        (nested, .ok ⟨"urn:t", "ns0__a___bLeafType"⟩)] := by
  intro nested joined
  obtain ⟨-, -, hlater⟩ := log_injective "urn:t" [nested, joined, nested]
  have hfirst : ((new "urn:t").nameFor nested.owner nested.role).1 = .ok ⟨"urn:t", "ns0__a___bLeafType"⟩ := by
    decide +kernel
  rw [log, log, log, log, hfirst] at hlater ⊢
  have hsecond := ((hlater [_] joined _ [_] rfl).1 "ns0__a___bLeafType" ["a___b"] ["a", "b"]).2
    ⟨by decide +kernel, rfl, nested, List.mem_singleton.2 rfl, by decide, rfl⟩
  have hthird := (hlater [_, _] nested _ [] rfl).2 _ (List.mem_cons_self ..)
  rw [hsecond, hthird]

end Namer

end YangDesign.Translate
