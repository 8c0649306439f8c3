/-
What a written file does to the files.

`fileAt?` is the text of the file at a resolved path. Folders are made only where nothing stands, so everything stays that stood
(`Grows`): no file changes, and a path leads where it led (`resolve_of_folders`). `write_cases` tells how a write ends, and
`run_write` is the result: one that succeeds puts the text at the place that the path leads to, and changes no other file.
-/
import Mathlib
import YangDesign.Command.Files
import YangDesign.Proofs.Translate.Build

namespace YangDesign.Command

namespace Files

variable {fs mid after : Files} {p q : Path} {e : Entry}

/-- the text of the file at a resolved path -/
def fileAt? (fs : Files) (q : Path) : Option String :=
  match fs.entryAt? q with
  | some (.file text) => some text
  | _ => none

/-! ## Places -/

theorem lookup_filter (l : List (Path × Entry)) (keep : Path → Bool) (q : Path) :
    (l.filter fun x => keep x.1).lookup q = if keep q then l.lookup q else none := by
  induction l with
  | nil => simp
  | cons x xs ih =>
    obtain ⟨r, d⟩ := x
    by_cases hq : q = r
    · subst hq
      cases hkeep : keep q <;> simp [hkeep, ih]
    · have hne : (q == r) = false := beq_eq_false_iff_ne.2 hq
      cases hkeep : keep r <;> simp [hkeep, List.lookup_cons, hne, ih]

theorem lookup_place (fs : Files) (p : Path) (e : Entry) (q : Path) :
    (fs.place p e).entries.lookup q = if q = p then some e else fs.entries.lookup q := by
  have hrest : (fs.entries.filter (·.1 != p)).lookup q = if q != p then fs.entries.lookup q else none :=
    lookup_filter fs.entries (· != p) q
  simp only [place, List.lookup_append, hrest]
  by_cases hq : q = p
  · simp [hq]
  · have hne : (q == p) = false := beq_eq_false_iff_ne.2 hq
    simp [hq, hne, List.lookup_cons]

/-- what is listed below a path after an entry was placed -/
theorem any_isBelow_place (fs : Files) (p : Path) (e : Entry) (q : Path) :
    ((fs.place p e).entries.any fun x => x.1.isBelow q) =
      ((fs.entries.any fun x => x.1.isBelow q) || p.isBelow q) := by
  rw [Bool.eq_iff_iff]
  simp only [place, List.any_append, List.any_filter, Bool.or_eq_true, List.any_eq_true]
  constructor
  · rintro (⟨x, hx, hbelow⟩ | ⟨x, hx, hbelow⟩)
    · exact Or.inl ⟨x, hx, (Bool.and_eq_true _ _ ▸ hbelow).2⟩
    · rw [List.mem_singleton.1 hx] at hbelow
      exact Or.inr hbelow
  · rintro (⟨x, hx, hbelow⟩ | hbelow)
    · by_cases hp : x.1 = p
      · exact Or.inr ⟨(p, e), List.mem_singleton_self _, hp ▸ hbelow⟩
      · exact Or.inl ⟨x, hx, by simp [hp, hbelow]⟩
    · exact Or.inr ⟨(p, e), List.mem_singleton_self _, hbelow⟩

/-- what stands at a path after an entry was placed: above the entry there are folders at least -/
theorem entryAt?_place (fs : Files) (p : Path) (e : Entry) (q : Path) :
    (fs.place p e).entryAt? q =
      if q = p then some e else (fs.entryAt? q).or (if p.isBelow q then some .folder else none) := by
  unfold entryAt?
  rw [lookup_place, any_isBelow_place]
  by_cases hq : q = p
  · simp [hq]
  · rw [if_neg hq, if_neg hq]
    cases fs.entries.lookup q with
    | some d => rfl
    | none =>
      cases q.parts.all (· == "..") <;> cases fs.entries.any (fun x => x.1.isBelow q) <;> cases p.isBelow q <;> rfl

theorem entryAt?_place_self (fs : Files) (p : Path) (e : Entry) : (fs.place p e).entryAt? p = some e := by
  rw [entryAt?_place, if_pos rfl]

/-- what stood elsewhere stands -/
theorem entryAt?_place_of_some (hq : q ≠ p) {d : Entry} (hd : fs.entryAt? q = some d) :
    (fs.place p e).entryAt? q = some d := by
  rw [entryAt?_place, if_neg hq, hd]
  rfl

/-- where nothing stood elsewhere, there is a folder at most -/
theorem entryAt?_place_of_none (hq : q ≠ p) (hnone : fs.entryAt? q = none) :
    (fs.place p e).entryAt? q = none ∨ (fs.place p e).entryAt? q = some .folder := by
  rw [entryAt?_place, if_neg hq, hnone]
  cases p.isBelow q
  · exact Or.inl rfl
  · exact Or.inr rfl

theorem fileAt?_place (hq : q ≠ p) : (fs.place p e).fileAt? q = fs.fileAt? q := by
  unfold fileAt?
  cases hd : fs.entryAt? q with
  | some d => rw [entryAt?_place_of_some hq hd]
  | none => rcases entryAt?_place_of_none (e := e) hq hd with h | h <;> rw [h]

/-! ## Folders -/

/-- everything stands that stood, and what is new are folders -/
structure Grows (before after : Files) : Prop where
  stays : ∀ q e, before.entryAt? q = some e → after.entryAt? q = some e
  fresh : ∀ q, before.entryAt? q = none → after.entryAt? q = none ∨ after.entryAt? q = some .folder

namespace Grows

theorem refl (fs : Files) : Grows fs fs :=
  ⟨fun _ _ h => h, fun _ h => Or.inl h⟩

theorem trans (h : Grows fs mid) (h' : Grows mid after) : Grows fs after := by
  refine ⟨fun q e he => h'.stays q e (h.stays q e he), fun q hq => ?_⟩
  rcases h.fresh q hq with hmid | hmid
  · exact h'.fresh q hmid
  · exact Or.inr (h'.stays q _ hmid)

theorem fileAt? (h : Grows fs after) (q : Path) : after.fileAt? q = fs.fileAt? q := by
  unfold Files.fileAt?
  cases he : fs.entryAt? q with
  | some e => rw [h.stays q e he]
  | none => rcases h.fresh q he with hq | hq <;> rw [hq]

/-- a folder where nothing stands -/
theorem place (h : fs.entryAt? p = none) : Grows fs (fs.place p .folder) := by
  constructor
  · intro q e he
    apply entryAt?_place_of_some _ he
    rintro rfl
    rw [h] at he
    cases he
  · intro q hq
    by_cases hp : q = p
    · rw [hp]
      exact Or.inr (entryAt?_place_self fs p _)
    · exact entryAt?_place_of_none hp hq

end Grows

/-- a path leads where it led, if every folder on the way is still there -/
theorem follow_of_folders (h : ∀ q, fs.entryAt? q = some .folder → after.entryAt? q = some .folder) (whole : Path)
    (names : List String) : ∀ {p q : Path}, fs.follow whole p names = .ok q → after.follow whole p names = .ok q := by
  induction names with
  | nil =>
    intro p q hq
    exact hq
  | cons name names ih =>
    intro p q hq
    unfold follow at hq ⊢
    cases hp : fs.entryAt? p with
    | none => simp [hp] at hq
    | some d =>
      cases d with
      | file text => simp [hp] at hq
      | folder =>
        rw [hp] at hq
        rw [h p hp]
        dsimp only at hq ⊢
        split at hq
        · cases hq
        · rename_i hshort
          rw [if_neg hshort]
          exact ih hq

theorem resolve_of_folders (h : ∀ q, fs.entryAt? q = some .folder → after.entryAt? q = some .folder)
    (hp : fs.resolve p = .ok q) : after.resolve p = .ok q := by
  unfold resolve at hp ⊢
  split at hp
  · cases hp
  · rename_i hname
    rw [if_neg hname]
    split at hp
    · cases hp
    · rename_i hlong
      rw [if_neg hlong]
      exact follow_of_folders h p p.parts hp

/-! ## Changes -/

theorem run_lift {α : Type} (r : Except FileProblem α) (fs : Files) :
    ((liftM r : Change α).run fs : Except FileProblem α × Files) = (r, fs) := by
  cases r <;> rfl

/-- a folder is made where nothing stands -/
theorem run_makeOne (p : Path) (fs : Files) : ((makeOne p).run fs : Except FileProblem Unit × Files) =
    match fs.resolve p with
    | .error problem => (.error problem, fs)
    | .ok q =>
      match fs.entryAt? q with
      | some .folder => (.ok (), fs)
      | some (.file _) => (.error (.occupied p), fs)
      | none => (.ok (), fs.place q .folder) := by
  unfold makeOne
  rw [Translate.run_bind]
  change ((liftM (fs.resolve p) >>= _ : Change Unit).run fs : Except FileProblem Unit × Files) = _
  rw [Translate.run_bind, run_lift]
  cases fs.resolve p with
  | error problem => rfl
  | ok q =>
    dsimp only
    cases fs.entryAt? q with
    | none => rfl
    | some d => cases d <;> rfl

theorem grows_makeOne (p : Path) (fs : Files) : Grows fs ((makeOne p).run fs : Except FileProblem Unit × Files).2 := by
  rw [run_makeOne]
  cases fs.resolve p with
  | error problem => exact Grows.refl fs
  | ok q =>
    dsimp only
    cases hq : fs.entryAt? q with
    | none => exact Grows.place hq
    | some d => cases d <;> exact Grows.refl fs

/-- the folders above a path are made from the outermost that is missing on -/
theorem grows_makeFolders (p : Path) (n : Nat) (fs : Files) :
    Grows fs ((makeFolders p n).run fs : Except FileProblem Unit × Files).2 := by
  induction n generalizing fs with
  | zero => exact Grows.refl fs
  | succ n ih =>
    unfold makeFolders
    rw [Translate.run_bind]
    change Grows fs ((do
      if fs.lacksWay _ then makeFolders p n
      makeOne _ : Change Unit).run fs : Except FileProblem Unit × Files).2
    cases fs.lacksWay { p with parts := p.parts.take (n + 1) } with
    | false => exact grows_makeOne _ fs
    | true =>
      simp only [if_true]
      rw [Translate.run_bind]
      have habove := ih fs
      rcases hrun : ((makeFolders p n).run fs : Except FileProblem Unit × Files) with ⟨e | _, mid⟩
      · rw [hrun] at habove
        exact habove
      · rw [hrun] at habove
        exact habove.trans (grows_makeOne _ mid)

/-- **What becomes of a write.** It fails after folders have been made at most; or the text stands at the place that the path
leads to, where no folder stood. -/
theorem write_cases {text : String} {result : Except FileProblem Unit}
    (h : ((write p text).run fs : Except FileProblem Unit × Files) = (result, after)) :
    (∃ problem, result = .error problem ∧ Grows fs after) ∨
      ∃ mid q, result = .ok () ∧ Grows fs mid ∧ mid.resolve p = .ok q ∧ mid.entryAt? q ≠ some .folder ∧
        after = mid.place q (.file text) := by
  unfold write at h
  rw [Translate.run_bind] at h
  have hfolders := grows_makeFolders p.parent p.parent.parts.length fs
  rcases hrun : ((makeFolders p.parent p.parent.parts.length).run fs : Except FileProblem Unit × Files) with
    ⟨problem | _, mid⟩
  · rw [hrun] at h hfolders
    cases h
    exact Or.inl ⟨problem, rfl, hfolders⟩
  rw [hrun] at h hfolders
  dsimp only at h
  rw [Translate.run_bind] at h
  change ((liftM (mid.resolve p) >>= _ : Change Unit).run mid : Except FileProblem Unit × Files) = _ at h
  rw [Translate.run_bind, run_lift] at h
  cases hq : mid.resolve p with
  | error problem =>
    rw [hq] at h
    cases h
    exact Or.inl ⟨problem, rfl, hfolders⟩
  | ok q =>
    rw [hq] at h
    dsimp only at h
    by_cases hfolder : mid.entryAt? q = some .folder
    · rw [if_pos hfolder] at h
      cases h
      exact Or.inl ⟨_, rfl, hfolders⟩
    · rw [if_neg hfolder] at h
      cases h
      exact Or.inr ⟨mid, q, rfl, hfolders, hq, hfolder, rfl⟩

/-- a write that fails changes no file -/
theorem fileAt?_of_write_error {text : String} {problem : FileProblem}
    (h : ((write p text).run fs : Except FileProblem Unit × Files) = (.error problem, after)) (q : Path) :
    after.fileAt? q = fs.fileAt? q := by
  rcases write_cases h with ⟨-, -, hgrows⟩ | ⟨mid, r, hok, -⟩
  · exact hgrows.fileAt? q
  · cases hok

/-- **A write changes one file.** After it the path leads to the text, and no file stands differently elsewhere. -/
theorem run_write {text : String} (h : ((write p text).run fs : Except FileProblem Unit × Files) = (.ok (), after)) :
    ∃ place, after.resolve p = .ok place ∧ after.read? p = .ok (some text) ∧
      ∀ q, q ≠ place → after.fileAt? q = fs.fileAt? q := by
  rcases write_cases h with ⟨problem, herror, -⟩ | ⟨mid, place, -, hgrows, hplace, hfolder, rfl⟩
  · cases herror
  -- the places on the way are folders, so the file is not put at one of them
  have hstays : ∀ q, mid.entryAt? q = some .folder → (mid.place place (.file text)).entryAt? q = some .folder := by
    intro q hq
    apply entryAt?_place_of_some _ hq
    rintro rfl
    exact hfolder hq
  have hresolve := resolve_of_folders hstays hplace
  refine ⟨place, hresolve, ?_, fun q hq => (fileAt?_place hq).trans (hgrows.fileAt? q)⟩
  rw [read?, entry?, hresolve]
  dsimp only
  rw [entryAt?_place_self]
  rfl

end Files

end YangDesign.Command
