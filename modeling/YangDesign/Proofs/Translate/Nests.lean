/-
Requests to a registry in any nest.

A `Caller` is any program that uses a registry: what it asks next may depend on all it has been told, its builds are such
programs themselves, and a failed request may be caught or passed on. `Caller.run` runs it and records what happens, each
event with the registry at that moment.

What a registry knows is told by the events alone (`Registry.Tells`): names are known once they are requested, they have the
definition with which their build ended, and the number of names is that of the pairs requested. `Recorder.Kept` says so of
all moments up to now. A step keeps it (`Recorder.Kept.known`, `began`, `built`, `broke`), and what a run adds builds no name
that was known before (`Recorder.Later`); `Caller.run_kept` is the run. `Caller.run_once` reads off what holds of every nest.
-/
import YangDesign.Proofs.Translate.Build
import YangDesign.Translate.Request

namespace YangDesign.Translate

open Design

/-! ## Callers -/

/-- a program that uses a registry, and gives a definition or fails -/
inductive Caller (ε : Type) where
  | give (d : Definition)
  | fail (e : ε)
  | request (f : Family) (n : SymbolicName) (build : Caller ε) (next : Except ε SymbolicName → Caller ε)
  | lookUp (f : Family) (n : SymbolicName) (next : Option Definition → Caller ε)
  | isRegistered (f : Family) (n : SymbolicName) (next : Bool → Caller ε)
  | size (next : Nat → Caller ε)

/-- what happens to the name of a family -/
inductive RegistryEvent where
  | requested (f : Family) (n : SymbolicName)
  | began (f : Family) (n : SymbolicName)
  | built (f : Family) (n : SymbolicName) (d : Definition)
  | broke (f : Family) (n : SymbolicName)

/-- an event and the registry just before it -/
structure Moment where
  event : RegistryEvent
  registry : Registry

/-- a registry and what has happened so far -/
structure Recorder where
  registry : Registry
  log : List Moment

instance : HasRegistry Recorder where
  registry s := s.registry
  withRegistry r s := { s with registry := r }

namespace Recorder

/-- nothing has happened -/
def start : Recorder :=
  ⟨.empty, []⟩

/-- an event now -/
def note (s : Recorder) (e : RegistryEvent) : Recorder :=
  { s with log := s.log ++ [⟨e, s.registry⟩] }

/-- the events so far -/
def events (s : Recorder) : List RegistryEvent :=
  s.log.map (·.event)

/-- a new name is requested and reserved, and its build begins -/
def opened (s : Recorder) (f : Family) (n : SymbolicName) : Recorder :=
  Recorder.note { s.note (.requested f n) with registry := s.registry.reserve f n } (.began f n)

/-- a build ends with a definition -/
def closed (s : Recorder) (f : Family) (n : SymbolicName) (d : Definition) : Recorder :=
  { s.note (.built f n d) with registry := s.registry.record f n d }

end Recorder

variable {ε : Type}

/-- notes an event -/
def noted (e : RegistryEvent) : Build Recorder ε Unit :=
  modify (·.note e)

/-- a build that is noted when it begins and when it ends -/
def watched (f : Family) (n : SymbolicName) (build : Build Recorder ε Definition) : Build Recorder ε Definition := do
  noted (.began f n)
  match ← outcome build with
  | .ok d =>
    noted (.built f n d)
    return d
  | .error e =>
    noted (.broke f n)
    throw e

/-- a program run on a registry -/
def Caller.run : Caller ε → Build Recorder ε Definition
  | .give d => return d
  | .fail e => throw e
  | .request f n build next => do
    noted (.requested f n)
    let r ← outcome (obtain f n (watched f n build.run))
    (next r).run
  | .lookUp f n next => do (next ((← get).registry.lookUp f n)).run
  | .isRegistered f n next => do (next ((← get).registry.isRegistered f n)).run
  | .size next => do (next (← get).registry.size).run

/-! ## Steps -/

theorem run_outcome {σ α : Type} (x : Build σ ε α) (s : σ) :
    ((outcome x).run s : Except ε (Except ε α) × σ) = (.ok (x.run s : Except ε α × σ).1, (x.run s : Except ε α × σ).2) :=
  rfl

section Obtain

variable {σ : Type} [HasRegistry σ] {f : Family} {n : SymbolicName} {build : Build σ ε Definition} {s t : σ}

theorem run_obtain_known (h : (HasRegistry.registry s).isRegistered f n = true) :
    ((obtain f n build).run s : Except ε SymbolicName × σ) = (.ok n, s) := by
  unfold obtain
  rw [run_get_bind, if_pos h]
  rfl

theorem run_obtain_new (h : (HasRegistry.registry s).isRegistered f n = false) :
    ((obtain f n build).run s : Except ε SymbolicName × σ) = ((build >>= fun d => do
      modify fun t => HasRegistry.withRegistry ((HasRegistry.registry t).record f n d) t
      return n : Build σ ε SymbolicName).run (HasRegistry.withRegistry ((HasRegistry.registry s).reserve f n) s)) := by
  unfold obtain
  rw [run_get_bind, if_neg (by simp [h])]
  rfl

theorem run_obtain_ok (h : (HasRegistry.registry s).isRegistered f n = false) {d : Definition}
    (hbuild : (build.run (HasRegistry.withRegistry ((HasRegistry.registry s).reserve f n) s) : Except ε Definition × σ) =
      (.ok d, t)) : ((obtain f n build).run s : Except ε SymbolicName × σ) =
      (.ok n, HasRegistry.withRegistry ((HasRegistry.registry t).record f n d) t) := by
  rw [run_obtain_new h, run_bind, hbuild]
  rfl

theorem run_obtain_error (h : (HasRegistry.registry s).isRegistered f n = false) {e : ε}
    (hbuild : (build.run (HasRegistry.withRegistry ((HasRegistry.registry s).reserve f n) s) : Except ε Definition × σ) =
      (.error e, t)) : ((obtain f n build).run s : Except ε SymbolicName × σ) = (.error e, t) := by
  rw [run_obtain_new h, run_bind, hbuild]

end Obtain

section Run

variable {f : Family} {n : SymbolicName} {s t : Recorder}

theorem run_watched_ok {build : Build Recorder ε Definition} {d : Definition}
    (h : (build.run (s.note (.began f n)) : Except ε Definition × Recorder) = (.ok d, t)) :
    ((watched f n build).run s : Except ε Definition × Recorder) = (.ok d, t.note (.built f n d)) := by
  rw [watched, noted, run_modify_bind, run_bind, run_outcome, h]
  rfl

theorem run_watched_error {build : Build Recorder ε Definition} {e : ε}
    (h : (build.run (s.note (.began f n)) : Except ε Definition × Recorder) = (.error e, t)) :
    ((watched f n build).run s : Except ε Definition × Recorder) = (.error e, t.note (.broke f n)) := by
  rw [watched, noted, run_modify_bind, run_bind, run_outcome, h]
  rfl

variable {build : Caller ε} (next : Except ε SymbolicName → Caller ε)

/-- a request of a known name is answered at once -/
theorem Caller.run_known (h : s.registry.isRegistered f n = true) :
    ((Caller.request f n build next).run.run s : Except ε Definition × Recorder) =
      (next (.ok n)).run.run (s.note (.requested f n)) := by
  rw [Caller.run, noted, run_modify_bind, run_bind, run_outcome, run_obtain_known h]

/-- a request of a new name runs its build with the name reserved, and records what it gives -/
theorem Caller.run_new (h : s.registry.isRegistered f n = false) {d : Definition}
    (hbuild : (build.run.run (s.opened f n) : Except ε Definition × Recorder) = (.ok d, t)) :
    ((Caller.request f n build next).run.run s : Except ε Definition × Recorder) =
      (next (.ok n)).run.run (t.closed f n d) := by
  have hobtain := run_obtain_ok (s := s.note (.requested f n)) h (run_watched_ok hbuild)
  rw [Caller.run, noted, run_modify_bind, run_bind, run_outcome, hobtain]
  rfl

/-- the name stays reserved when the build fails -/
theorem Caller.run_broken (h : s.registry.isRegistered f n = false) {e : ε}
    (hbuild : (build.run.run (s.opened f n) : Except ε Definition × Recorder) = (.error e, t)) :
    ((Caller.request f n build next).run.run s : Except ε Definition × Recorder) =
      (next (.error e)).run.run (t.note (.broke f n)) := by
  have hobtain := run_obtain_error (s := s.note (.requested f n)) h (run_watched_error hbuild)
  rw [Caller.run, noted, run_modify_bind, run_bind, run_outcome, hobtain]

end Run

/-! ## What a registry knows -/

/-- the family of the name that an event is about -/
def RegistryEvent.family : RegistryEvent → Family
  | .requested f _ | .began f _ | .built f _ _ | .broke f _ => f

/-- the names that were requested -/
def requests (es : List RegistryEvent) : List (Family × SymbolicName) :=
  es.filterMap fun e => match e with
    | .requested f n => some (f, n)
    | _ => none

/-- the names whose builds began -/
def begins (es : List RegistryEvent) : List (Family × SymbolicName) :=
  es.filterMap fun e => match e with
    | .began f n => some (f, n)
    | _ => none

/-- a registry knows the names that were requested, with the definitions that their builds gave -/
structure Registry.Tells (r : Registry) (es : List RegistryEvent) : Prop where
  registered : ∀ f n, r.isRegistered f n = true ↔ .requested f n ∈ es
  found : ∀ f n d, r.lookUp f n = some d ↔ .built f n d ∈ es
  size : r.size = (requests es).toFinset.card

/-- a build begins right after the first request of its name, and a build that began ends once -/
def RegistryEvent.Right (past : List RegistryEvent) : RegistryEvent → Prop
  | .requested _ _ => True
  | .began f n => ∃ before, past = before ++ [.requested f n] ∧ .requested f n ∉ before
  | .built f n _ | .broke f n => .began f n ∈ past ∧ (∀ d, .built f n d ∉ past) ∧ .broke f n ∉ past

/-- what is picked for one element alone is there exactly if the element is -/
theorem mem_filterMap_iff {α β : Type} {pick : α → Option β} {a : α} {b : β} (h : ∀ x, pick x = some b ↔ x = a)
    {as : List α} : b ∈ as.filterMap pick ↔ a ∈ as := by
  rw [List.mem_filterMap]
  simp only [h, exists_eq_right]

theorem mem_requests {es : List RegistryEvent} {f : Family} {n : SymbolicName} :
    (f, n) ∈ requests es ↔ .requested f n ∈ es :=
  mem_filterMap_iff fun e => by cases e <;> simp

theorem mem_begins {es : List RegistryEvent} {f : Family} {n : SymbolicName} :
    (f, n) ∈ begins es ↔ .began f n ∈ es :=
  mem_filterMap_iff fun e => by cases e <;> simp

theorem requests_requested (es : List RegistryEvent) (f : Family) (n : SymbolicName) :
    requests (es ++ [.requested f n]) = requests es ++ [(f, n)] := by
  simp [requests]

theorem requests_of_eq_nil {es : List RegistryEvent} {e : RegistryEvent} (h : requests [e] = []) :
    requests (es ++ [e]) = requests es := by
  unfold requests at h ⊢
  rw [List.filterMap_append, h, List.append_nil]

theorem begins_began (es : List RegistryEvent) (f : Family) (n : SymbolicName) :
    begins (es ++ [.began f n]) = begins es ++ [(f, n)] := by
  simp [begins]

theorem begins_of_eq_nil {es : List RegistryEvent} {e : RegistryEvent} (h : begins [e] = []) :
    begins (es ++ [e]) = begins es := by
  unfold begins at h ⊢
  rw [List.filterMap_append, h, List.append_nil]

namespace Registry

namespace Tells

variable {r : Registry} {es : List RegistryEvent} {f : Family} {n : SymbolicName}

theorem start : Registry.empty.Tells [] where
  registered := fun f n => iff_of_false (by rw [Bool.not_eq_true]; rfl) List.not_mem_nil
  found := fun f n d => iff_of_false (fun h => by cases h) List.not_mem_nil
  size := rfl

/-- one more request of a known name tells nothing new -/
theorem known (h : r.Tells es) (hr : r.isRegistered f n = true) : r.Tells (es ++ [.requested f n]) where
  registered := fun f' n' => by
    rw [h.registered, List.mem_append, List.mem_singleton]
    refine ⟨.inl, fun hor => hor.elim id fun heq => ?_⟩
    cases heq
    exact (h.registered f n).1 hr
  found := fun f' n' d => by simp [h.found]
  size := by
    have hmem : (f, n) ∈ (requests es).toFinset := List.mem_toFinset.2 (mem_requests.2 ((h.registered f n).1 hr))
    rw [h.size, requests_requested, List.toFinset_append, List.toFinset_cons, List.toFinset_nil,
      insert_empty_eq, Finset.union_singleton, Finset.insert_eq_of_mem hmem]

/-- the first request of a name reserves it -/
theorem reserve (h : r.Tells es) (hr : r.isRegistered f n = false) : (r.reserve f n).Tells (es ++ [.requested f n]) where
  registered := fun f' n' => by
    rw [Registry.reserve, isRegistered_insert, Bool.or_eq_true, h.registered, List.mem_append, List.mem_singleton,
      decide_eq_true_iff, RegistryEvent.requested.injEq, or_comm, eq_comm, @eq_comm _ n n']
  found := fun f' n' d => by
    rw [Registry.reserve, lookUp_insert, List.mem_append, List.mem_singleton, ← h.found]
    split
    · rename_i heq
      obtain ⟨rfl, rfl⟩ := heq
      have hnone : r.lookUp f n ≠ some d := fun hd => by
        rw [isRegistered_of_lookUp hd] at hr
        cases hr
      simp [hnone]
    · simp
  size := by
    have hmem : (f, n) ∉ (requests es).toFinset := fun hmem => by
      rw [(h.registered f n).2 (mem_requests.1 (List.mem_toFinset.1 hmem))] at hr
      cases hr
    rw [Registry.reserve, size_insert, hr, if_neg Bool.false_ne_true, h.size, requests_requested, List.toFinset_append,
      List.toFinset_cons, List.toFinset_nil, insert_empty_eq, Finset.union_singleton, Finset.card_insert_of_notMem hmem]

theorem began (h : r.Tells es) : r.Tells (es ++ [.began f n]) where
  registered := fun f' n' => by simp [h.registered]
  found := fun f' n' d => by simp [h.found]
  size := by rw [h.size, requests_of_eq_nil rfl]

theorem broke (h : r.Tells es) : r.Tells (es ++ [.broke f n]) where
  registered := fun f' n' => by simp [h.registered]
  found := fun f' n' d => by simp [h.found]
  size := by rw [h.size, requests_of_eq_nil rfl]

/-- a build of a reserved name records its definition -/
theorem record (h : r.Tells es) (hr : r.isRegistered f n = true) (hnot : ∀ d, .built f n d ∉ es) (d : Definition) :
    (r.record f n d).Tells (es ++ [.built f n d]) where
  registered := fun f' n' => by
    rw [Registry.record, isRegistered_insert, Bool.or_eq_true, h.registered, decide_eq_true_iff]
    refine ⟨fun hor => ?_, fun hmem => ?_⟩
    · rcases hor with ⟨rfl, rfl⟩ | hmem
      · exact List.mem_append_left _ ((h.registered f n).1 hr)
      · exact List.mem_append_left _ hmem
    · exact .inr (by simpa using hmem)
  found := fun f' n' d' => by
    rw [Registry.record, lookUp_insert, List.mem_append, List.mem_singleton]
    split
    · rename_i heq
      obtain ⟨rfl, rfl⟩ := heq
      simp [hnot d', eq_comm]
    · rename_i hne
      rw [h.found]
      refine ⟨.inl, fun hor => hor.elim id fun heq => ?_⟩
      cases heq
      exact absurd ⟨rfl, rfl⟩ hne
  size := by rw [Registry.record, size_insert, hr, if_pos rfl, h.size, requests_of_eq_nil rfl]

/-- what a registry says of a family depends on the events of that family alone -/
theorem agree {r' : Registry} {es' : List RegistryEvent} (h : r.Tells es) (h' : r'.Tells es')
    (heq : es.filter (·.family = f) = es'.filter (·.family = f)) (n : SymbolicName) :
    r.isRegistered f n = r'.isRegistered f n ∧ r.lookUp f n = r'.lookUp f n := by
  have hmem : ∀ e : RegistryEvent, e.family = f → (e ∈ es ↔ e ∈ es') := by
    intro e he
    have hiff : e ∈ es.filter (·.family = f) ↔ e ∈ es'.filter (·.family = f) := by rw [heq]
    simpa [he] using hiff
  constructor
  · rw [Bool.eq_iff_iff, h.registered, h'.registered]
    exact hmem _ rfl
  · refine Option.ext fun d => ?_
    rw [h.found, h'.found]
    exact hmem _ rfl

end Tells

end Registry

/-! ## Moments -/

/-- at each moment of a log the registry tells what had happened, and the event is right -/
def Orderly (log : List Moment) : Prop :=
  ∀ past m future, log = past ++ m :: future →
    m.registry.Tells (past.map (·.event)) ∧ m.event.Right (past.map (·.event))

theorem orderly_nil : Orderly [] := by
  intro past m future h
  cases past <;> cases h

theorem Orderly.concat {log : List Moment} {m : Moment} (h : Orderly log) (htells : m.registry.Tells (log.map (·.event)))
    (hright : m.event.Right (log.map (·.event))) : Orderly (log ++ [m]) := by
  intro past m' future heq
  rcases List.eq_nil_or_concat future with rfl | ⟨future', x, rfl⟩
  · obtain ⟨rfl, hm⟩ := List.append_inj' heq rfl
    cases hm
    exact ⟨htells, hright⟩
  · rw [List.concat_eq_append, ← List.cons_append, ← List.append_assoc] at heq
    exact h past m' future' (List.append_inj' heq rfl).1

/-- an event is a request, or the registry does not know its name -/
def RegistryEvent.NewTo (r : Registry) : RegistryEvent → Prop
  | .requested _ _ => True
  | .began f n | .built f n _ | .broke f n => r.isRegistered f n = false

theorem RegistryEvent.NewTo.mono {r r' : Registry} (h : ∀ f n, r.isRegistered f n = true → r'.isRegistered f n = true)
    {e : RegistryEvent} (he : e.NewTo r') : e.NewTo r := by
  have hnot : ∀ f n, r'.isRegistered f n = false → r.isRegistered f n = false := fun f n hr' => by
    by_contra hr
    rw [h f n (by simpa using hr)] at hr'
    cases hr'
  cases e with
  | requested f n => trivial
  | began f n | built f n d | broke f n => exact hnot f n he

namespace Recorder

/-- what holds between two steps of a run -/
structure Kept (s : Recorder) : Prop where
  orderly : Orderly s.log
  tells : s.registry.Tells s.events
  begun : ∀ f n, .began f n ∈ s.events ↔ .requested f n ∈ s.events
  broken : ∀ f n, .broke f n ∈ s.events → .began f n ∈ s.events
  once : (begins s.events).Nodup

/-- a state later in a run: what was known is known, and nothing of it is built again -/
structure Later (s t : Recorder) : Prop where
  grows : ∃ more, t.log = s.log ++ more ∧ ∀ m ∈ more, m.event.NewTo s.registry
  registered : ∀ f n, s.registry.isRegistered f n = true → t.registry.isRegistered f n = true

theorem Later.refl (s : Recorder) : s.Later s where
  grows := ⟨[], (List.append_nil _).symm, fun _ hm => by cases hm⟩
  registered := fun _ _ h => h

theorem Later.trans {s t u : Recorder} (h : s.Later t) (h' : t.Later u) : s.Later u where
  grows := by
    obtain ⟨more, hmore, hnew⟩ := h.grows
    obtain ⟨more', hmore', hnew'⟩ := h'.grows
    refine ⟨more ++ more', by rw [hmore', hmore, List.append_assoc], List.forall_mem_append.2 ⟨hnew, fun m hm => ?_⟩⟩
    exact (hnew' m hm).mono h.registered
  registered := fun f n hs => h'.registered f n (h.registered f n hs)

/-- an event that is a request, or of a name that was new before -/
theorem Later.note {s t : Recorder} (h : s.Later t) {e : RegistryEvent} (he : e.NewTo s.registry) : s.Later (t.note e) where
  grows := by
    obtain ⟨more, hmore, hnew⟩ := h.grows
    refine ⟨more ++ [⟨e, t.registry⟩], by rw [Recorder.note, hmore, List.append_assoc], ?_⟩
    exact List.forall_mem_append.2 ⟨hnew, by simpa using he⟩
  registered := h.registered

/-- a build ends whose name was new before -/
theorem Later.closed {s t : Recorder} (h : s.Later t) {f : Family} {n : SymbolicName}
    (hnew : s.registry.isRegistered f n = false) (d : Definition) : s.Later (t.closed f n d) where
  grows := (h.note (e := .built f n d) hnew).grows
  registered := fun f' n' hs => by
    show (t.registry.record f n d).isRegistered f' n' = true
    rw [Registry.record, isRegistered_insert, h.registered f' n' hs, Bool.or_true]

theorem events_note (s : Recorder) (e : RegistryEvent) : (s.note e).events = s.events ++ [e] := by
  simp [events, Recorder.note]

variable {s t : Recorder} {f : Family} {n : SymbolicName}

/-- events later in a run that are about a name known before are requests -/
theorem Later.mem_events (h : s.Later t) {e : RegistryEvent} (he : e ∈ t.events) (hnew : ¬ e.NewTo s.registry) :
    e ∈ s.events := by
  obtain ⟨more, hmore, hall⟩ := h.grows
  rw [events, hmore, List.map_append, List.mem_append] at he
  refine he.resolve_right fun hmem => ?_
  obtain ⟨m, hm, rfl⟩ := List.mem_map.1 hmem
  exact hnew (hall m hm)

/-- a known name is requested once more -/
theorem Kept.known (hs : s.Kept) (h : s.registry.isRegistered f n = true) : (s.note (.requested f n)).Kept where
  orderly := hs.orderly.concat hs.tells trivial
  tells := by
    rw [events_note]
    exact hs.tells.known h
  begun := fun f' n' => by
    have hmem := (hs.tells.registered f n).1 h
    rw [events_note, List.mem_append, List.mem_append, List.mem_singleton, List.mem_singleton]
    constructor
    · rintro (hbegan | heq)
      · exact .inl ((hs.begun f' n').1 hbegan)
      · cases heq
    · rintro (hrequested | heq)
      · exact .inl ((hs.begun f' n').2 hrequested)
      · cases heq
        exact .inl ((hs.begun f n).2 hmem)
  broken := fun f' n' hmem => by
    rw [events_note] at hmem ⊢
    exact List.mem_append_left _ (hs.broken f' n' (by simpa using hmem))
  once := by
    rw [events_note, begins_of_eq_nil rfl]
    exact hs.once

theorem events_opened (s : Recorder) (f : Family) (n : SymbolicName) :
    (s.opened f n).events = s.events ++ [.requested f n] ++ [.began f n] := by
  simp [events, Recorder.opened, Recorder.note]

theorem registered_opened (s : Recorder) (f' : Family) (n' : SymbolicName) :
    (s.opened f n).registry.isRegistered f' n' = (decide (f = f' ∧ n = n') || s.registry.isRegistered f' n') :=
  isRegistered_insert s.registry f f' n n' none

theorem later_opened (h : s.registry.isRegistered f n = false) : s.Later (s.opened f n) where
  grows := by
    refine ⟨[⟨.requested f n, s.registry⟩, ⟨.began f n, s.registry.reserve f n⟩], ?_, ?_⟩
    · simp [Recorder.opened, Recorder.note]
    · simp [RegistryEvent.NewTo, h]
  registered := fun f' n' hs => by rw [registered_opened, hs, Bool.or_true]

/-- no request of a name that is new -/
theorem Kept.not_requested (hs : s.Kept) (h : s.registry.isRegistered f n = false) : .requested f n ∉ s.events :=
  fun hmem => by
    rw [(hs.tells.registered f n).2 hmem] at h
    cases h

/-- the build of a new name begins, with the name reserved -/
theorem Kept.opened (hs : s.Kept) (h : s.registry.isRegistered f n = false) : (s.opened f n).Kept := by
  have hnot := hs.not_requested h
  have hevents := events_opened s f n
  have hreserved := hs.tells.reserve h
  refine ⟨?_, ?_, fun f' n' => ?_, fun f' n' hmem => ?_, ?_⟩
  · have hrequested := hs.orderly.concat (m := ⟨.requested f n, s.registry⟩) hs.tells trivial
    refine hrequested.concat (m := ⟨.began f n, s.registry.reserve f n⟩) ?_ ?_ <;> rw [List.map_append]
    · exact hreserved
    · exact ⟨s.events, rfl, hnot⟩
  · rw [hevents]
    exact hreserved.began
  · rw [hevents]
    simp [hs.begun]
  · rw [hevents] at hmem ⊢
    simp [hs.broken f' n' (by simpa using hmem)]
  · rw [hevents, begins_began, begins_of_eq_nil rfl]
    refine List.nodup_append.2 ⟨hs.once, List.nodup_singleton _, fun k hk k' hk' => ?_⟩
    obtain rfl := List.mem_singleton.1 hk'
    rintro rfl
    exact hnot ((hs.begun f n).1 (mem_begins.1 hk))

/-- what runs within a build neither ends it nor begins it again -/
theorem Kept.unended (hs : s.Kept) (h : s.registry.isRegistered f n = false) (ht : t.Kept) (hlater : (s.opened f n).Later t) :
    .began f n ∈ t.events ∧ (∀ d, .built f n d ∉ t.events) ∧ .broke f n ∉ t.events := by
  have hregistered : (s.opened f n).registry.isRegistered f n = true := by simp [registered_opened]
  have hearlier : ∀ e : RegistryEvent, e ∈ t.events → ¬ e.NewTo (s.opened f n).registry → e ∉ s.events →
      e = .requested f n ∨ e = .began f n := by
    intro e he hnew hs
    have hmem := hlater.mem_events he hnew
    rw [events_opened] at hmem
    simpa [hs] using hmem
  have hnot := hs.not_requested h
  refine ⟨(ht.begun f n).2 ((ht.tells.registered f n).1 (hlater.registered f n hregistered)), fun d hbuilt => ?_,
    fun hbroke => ?_⟩
  · have hnone : .built f n d ∉ s.events := fun hmem =>
      hnot ((hs.tells.registered f n).1 (isRegistered_of_lookUp ((hs.tells.found f n d).2 hmem)))
    rcases hearlier _ hbuilt (by simp [RegistryEvent.NewTo, hregistered]) hnone with heq | heq <;> cases heq
  · have hnone : .broke f n ∉ s.events := fun hmem => hnot ((hs.begun f n).1 (hs.broken f n hmem))
    rcases hearlier _ hbroke (by simp [RegistryEvent.NewTo, hregistered]) hnone with heq | heq <;> cases heq

/-- a build that began ends, with a definition -/
theorem Kept.closed (ht : t.Kept) (hbegan : .began f n ∈ t.events) (hbuilt : ∀ d, .built f n d ∉ t.events)
    (hbroke : .broke f n ∉ t.events) (d : Definition) : (t.closed f n d).Kept := by
  have hevents : (t.closed f n d).events = t.events ++ [.built f n d] := events_note t _
  have hregistered := (ht.tells.registered f n).2 ((ht.begun f n).1 hbegan)
  refine ⟨ht.orderly.concat ht.tells ⟨hbegan, hbuilt, hbroke⟩, ?_, fun f' n' => ?_, fun f' n' hmem => ?_, ?_⟩
  · rw [hevents]
    exact ht.tells.record hregistered hbuilt d
  · rw [hevents]
    simp [ht.begun]
  · rw [hevents] at hmem ⊢
    simp [ht.broken f' n' (by simpa using hmem)]
  · rw [hevents, begins_of_eq_nil rfl]
    exact ht.once

/-- a build that began ends, with a failure -/
theorem Kept.broke (ht : t.Kept) (hbegan : .began f n ∈ t.events) (hbuilt : ∀ d, .built f n d ∉ t.events)
    (hbroke : .broke f n ∉ t.events) : (t.note (.broke f n)).Kept := by
  have hevents : (t.note (.broke f n)).events = t.events ++ [.broke f n] := events_note t _
  refine ⟨ht.orderly.concat ht.tells ⟨hbegan, hbuilt, hbroke⟩, ?_, fun f' n' => ?_, fun f' n' hmem => ?_, ?_⟩
  · rw [hevents]
    exact ht.tells.broke
  · rw [hevents]
    simp [ht.begun]
  · rw [hevents, List.mem_append, List.mem_singleton] at hmem
    rw [hevents, List.mem_append]
    rcases hmem with hmem | heq
    · exact .inl (ht.broken f' n' hmem)
    · cases heq
      exact .inl hbegan
  · rw [hevents, begins_of_eq_nil rfl]
    exact ht.once

end Recorder

/-- **A run keeps what holds between steps**, and builds no name that was known before. -/
theorem Caller.run_kept (c : Caller ε) : ∀ s : Recorder, s.Kept →
    ((c.run.run s : Except ε Definition × Recorder)).2.Kept ∧ s.Later (c.run.run s : Except ε Definition × Recorder).2 := by
  induction c with
  | give d => exact fun s hs => ⟨hs, .refl s⟩
  | fail e => exact fun s hs => ⟨hs, .refl s⟩
  | lookUp f n next ih => exact fun s hs => ih _ s hs
  | isRegistered f n next ih => exact fun s hs => ih _ s hs
  | size next ih => exact fun s hs => ih _ s hs
  | request f n build next ihbuild ihnext =>
    intro s hs
    cases h : s.registry.isRegistered f n with
    | true =>
      rw [Caller.run_known next h]
      obtain ⟨hkept, hlater⟩ := ihnext (.ok n) _ (hs.known h)
      have hasked : s.Later (s.note (.requested f n)) := (Recorder.Later.refl s).note trivial
      exact ⟨hkept, hasked.trans hlater⟩
    | false =>
      have hopened := hs.opened h
      obtain ⟨hbuild, hafter⟩ := ihbuild _ hopened
      rcases hrun : (build.run.run (s.opened f n) : Except ε Definition × Recorder) with ⟨r, t⟩
      rw [hrun] at hbuild hafter
      obtain ⟨hbegan, hbuilt, hbroke⟩ := hs.unended h hbuild hafter
      have hlater := (Recorder.later_opened h).trans hafter
      cases r with
      | ok d =>
        rw [Caller.run_new next h hrun]
        obtain ⟨hkept, hrest⟩ := ihnext (.ok n) _ (hbuild.closed hbegan hbuilt hbroke d)
        exact ⟨hkept, (hlater.closed h d).trans hrest⟩
      | error e =>
        rw [Caller.run_broken next h hrun]
        obtain ⟨hkept, hrest⟩ := ihnext (.error e) _ (hbuild.broke hbegan hbuilt hbroke)
        have hended : s.Later (t.note (.broke f n)) := hlater.note h
        exact ⟨hkept, hended.trans hrest⟩

/-! ## Nests -/

theorem Recorder.kept_start : Recorder.start.Kept where
  orderly := orderly_nil
  tells := .start
  begun := fun _ _ => iff_of_false List.not_mem_nil List.not_mem_nil
  broken := fun _ _ h => by cases h
  once := List.nodup_nil

/-- what is recorded of a program that starts with no names -/
def Caller.recorded (c : Caller ε) : Recorder :=
  (c.run.run Recorder.start : Except ε Definition × Recorder).2

/-- at some moment, or at the end, these events had happened and the registry was this one -/
def Recorder.Saw (s : Recorder) (past : List RegistryEvent) (r : Registry) : Prop :=
  (past = s.events ∧ r = s.registry) ∨
    ∃ before m future, s.log = before ++ m :: future ∧ past = before.map (·.event) ∧ r = m.registry

theorem Recorder.Kept.tells_of_saw {s : Recorder} (hs : s.Kept) {past : List RegistryEvent} {r : Registry}
    (h : s.Saw past r) : r.Tells past := by
  rcases h with ⟨rfl, rfl⟩ | ⟨before, m, future, hlog, rfl, rfl⟩
  · exact hs.tells
  · exact (hs.orderly before m future hlog).1

theorem Recorder.Kept.right {s : Recorder} (hs : s.Kept) {past future : List RegistryEvent} {e : RegistryEvent}
    (h : s.events = past ++ e :: future) : e.Right past := by
  obtain ⟨before, rest, hlog, rfl, hrest⟩ := List.map_eq_append_iff.1 h
  obtain ⟨m, after, rfl, rfl, rfl⟩ := List.map_eq_cons_iff.1 hrest
  exact (hs.orderly before m after hlog).2

section Right

variable {es : List RegistryEvent} {f : Family} {n : SymbolicName}
  (h : ∀ past e future, es = past ++ e :: future → e.Right past)
include h

/-- a build that broke was requested -/
theorem requested_of_broke (hbroke : .broke f n ∈ es) : .requested f n ∈ es := by
  obtain ⟨past, future, rfl⟩ := List.append_of_mem hbroke
  obtain ⟨hbegan, -, -⟩ := h past _ future rfl
  obtain ⟨earlier, later, rfl⟩ := List.append_of_mem hbegan
  obtain ⟨first, rfl, -⟩ := h earlier (.began f n) (later ++ .broke f n :: future) (by simp)
  simp

/-- a build that broke has given nothing -/
theorem not_built_of_broke (hbroke : .broke f n ∈ es) (d : Definition) : .built f n d ∉ es := by
  intro hbuilt
  obtain ⟨past, future, rfl⟩ := List.append_of_mem hbroke
  obtain ⟨-, hnot, -⟩ := h past _ future rfl
  rcases List.mem_append.1 hbuilt with hmem | hmem
  · exact hnot d hmem
  · rcases List.mem_cons.1 hmem with heq | hmem
    · cases heq
    · -- the definition came after the failure, which its own event excludes
      obtain ⟨between, rest, rfl⟩ := List.append_of_mem hmem
      obtain ⟨-, -, hnone⟩ := h (past ++ .broke f n :: between) (.built f n d) rest (by simp)
      exact hnone (List.mem_append_right _ List.mem_cons_self)

end Right

theorem Recorder.Kept.right_of_saw {s : Recorder} (hs : s.Kept) {past : List RegistryEvent} {r : Registry}
    (h : s.Saw past r) : ∀ before e future, past = before ++ e :: future → e.Right before := by
  intro before e future heq
  rcases h with ⟨rfl, -⟩ | ⟨log, m, rest, hlog, rfl, -⟩
  · exact hs.right heq
  · have hevents : s.events = before ++ e :: (future ++ (m :: rest).map (·.event)) := by
      rw [Recorder.events, hlog, List.map_append, heq, List.append_assoc, List.cons_append]
    exact hs.right hevents

/-- **Names are built at most once in any nest.** Whatever a program asks, in builds of any depth that ask again for their
own names, fail, or catch or pass on failures: the build of each name that is requested begins once, right after the first
request, and ends at most once. At every moment, also within builds, the registry knows exactly the names that were
requested, finds for a name the definition that its build has given, and none if it has not or if it broke, and has as many
names as different pairs were requested. What it says of a family depends on the events of that family alone. -/
theorem Caller.run_once (c : Caller ε) :
    (∀ past r, c.recorded.Saw past r → r.Tells past ∧
      ∀ f n, .broke f n ∈ past → r.isRegistered f n = true ∧ r.lookUp f n = none) ∧
    (∀ past e future, c.recorded.events = past ++ e :: future → e.Right past) ∧
    (begins c.recorded.events).Nodup ∧
    (∀ f n, .began f n ∈ c.recorded.events ↔ .requested f n ∈ c.recorded.events) ∧
    ∀ (c' : Caller ε) past past' r r' f, c.recorded.Saw past r → c'.recorded.Saw past' r' →
      past.filter (·.family = f) = past'.filter (·.family = f) →
      ∀ n, r.isRegistered f n = r'.isRegistered f n ∧ r.lookUp f n = r'.lookUp f n := by
  have hkept : ∀ c : Caller ε, c.recorded.Kept := fun c => (c.run_kept _ Recorder.kept_start).1
  have hc := hkept c
  refine ⟨fun past r h => ⟨hc.tells_of_saw h, fun f n hbroke => ?_⟩, fun past e future h => hc.right h, hc.once, hc.begun,
    fun c' past past' r r' f h h' heq n => (hc.tells_of_saw h).agree ((hkept c').tells_of_saw h') heq n⟩
  have htells := hc.tells_of_saw h
  have hright := hc.right_of_saw h
  constructor
  · exact (htells.registered f n).2 (requested_of_broke hright hbroke)
  · cases hfound : r.lookUp f n with
    | none => rfl
    | some d => exact absurd ((htells.found f n d).1 hfound) (not_built_of_broke hright hbroke d)

/-- a name whose build asks for itself and catches the failure of another one, which is asked for again at the end -/
def reentrant : Caller BuildFailed :=
  let named := fun (name : String) => (⟨"urn:t", name⟩ : SymbolicName)
  let definition := fun (name : String) => (⟨⟨named name, name, name, none⟩, .dataType none []⟩ : Definition)
  .request .dataType (named "A")
    (.request .dataType (named "A") (.give (definition "C")) fun _ =>
      .request .dataType (named "B")
        (.request .objectType (named "A") (.give (definition "D")) fun _ => .fail .failed)
        fun _ => .give (definition "A"))
    fun _ => .request .dataType (named "B") (.give (definition "B")) fun _ => .fail .failed

/-- five requests, three builds, of which one broke -/
theorem reentrant_once :
    requests reentrant.recorded.events = [(.dataType, ⟨"urn:t", "A"⟩), (.dataType, ⟨"urn:t", "A"⟩),
      (.dataType, ⟨"urn:t", "B"⟩), (.objectType, ⟨"urn:t", "A"⟩), (.dataType, ⟨"urn:t", "B"⟩)] ∧
    begins reentrant.recorded.events = [(.dataType, ⟨"urn:t", "A"⟩), (.dataType, ⟨"urn:t", "B"⟩),
      (.objectType, ⟨"urn:t", "A"⟩)] ∧
    (begins reentrant.recorded.events).Nodup ∧ reentrant.recorded.registry.size = 3 ∧
    reentrant.recorded.registry.Tells reentrant.recorded.events ∧
    reentrant.recorded.registry.lookUp .dataType ⟨"urn:t", "B"⟩ = none := by
  obtain ⟨hmoments, -, hnodup, -⟩ := reentrant.run_once
  obtain ⟨htells, hbroke⟩ := hmoments _ _ (.inl ⟨rfl, rfl⟩)
  have hmem : .broke .dataType ⟨"urn:t", "B"⟩ ∈ reentrant.recorded.events := by
    exact List.mem_of_getElem? (i := 8) rfl
  exact ⟨rfl, rfl, hnodup, rfl, htells, (hbroke _ _ hmem).2⟩

end YangDesign.Translate
