/-
What the command that converts leaves behind.

Everything before the write leaves the files as they are, and ends the command with code 1 if at all; what it answers comes from
the same files (`Calm`). So `calm_prepared` says that the text to be written is that of a design which the validator accepts.
`run_convertSteps` tells how the steps end: the files as they were, or the text at the place that the output leads to.
`run_convert` is the result for the whole command. The message of success comes after the write. If it cannot be shown, the
command ends with code 1 although the design is written.
-/
import YangDesign.Command.Convert
import YangDesign.Proofs.Answers
import YangDesign.Proofs.Command.Files

namespace YangDesign.Command

open Console Translate

variable {α β : Type} {files : Files} {now : Int} {r : ConvertRequest} {st : Settings}

/-! ## Calm actions -/

/-- on some files, an action leaves them as they are and answers what `Q` says; if it ends the command, then with code 1 -/
def Calm (files : Files) (x : Action α) (Q : α → Prop) : Prop :=
  ∀ s : Session, s.files = files →
    match (x.run s : Except Interrupt α × Session) with
    | (.ok a, t) => t.files = files ∧ Q a
    | (.error e, t) => t.files = files ∧ ∀ code, e = .exit code → code = 1

namespace Calm

variable {Q : α → Prop}

theorem pure {a : α} (h : Q a) : Calm files (Pure.pure a : Action α) Q :=
  fun _ hs => ⟨hs, h⟩

theorem bind {x : Action α} {f : α → Action β} {R : β → Prop} (hx : Calm files x Q)
    (hf : ∀ a, Q a → Calm files (f a) R) : Calm files (x >>= f) R := by
  intro s hs
  have hfirst := hx s hs
  rw [run_bind]
  rcases hrun : (x.run s : Except Interrupt α × Session) with ⟨e | a, t⟩
  · rw [hrun] at hfirst
    exact hfirst
  · rw [hrun] at hfirst
    exact hf a hfirst.2 t hfirst.1

theorem imp {R : α → Prop} {x : Action α} (hx : Calm files x Q) (h : ∀ a, Q a → R a) : Calm files x R := by
  intro s hs
  have hx := hx s hs
  split at hx
  · exact ⟨hx.1, h _ hx.2⟩
  · exact hx

theorem throw (f : Failure) : Calm files (MonadExcept.throw (.failure f) : Action α) fun _ => False :=
  fun _ hs => ⟨hs, fun _ hc => by cases hc⟩

theorem leave : Calm files (leave 1 : Action α) fun _ => False :=
  fun _ hs => ⟨hs, fun _ hc => by cases hc; rfl⟩

theorem attempt (x : Except Failure α) : Calm files (attempt x) fun a => x = .ok a := by
  cases x with
  | ok a => exact pure rfl
  | error f => exact (throw f).imp fun _ h => h.elim

/-- a step that is not always taken -/
theorem optional {c : Prop} [Decidable c] {x : Action Unit} {rest : Action α} (hx : Calm files x fun _ => True)
    (hrest : Calm files rest Q) : Calm files (if c then x >>= fun _ => rest else rest) Q := by
  split
  · exact hx.bind fun _ _ => hrest
  · exact hrest

theorem get : Calm files (MonadState.get : Action Session) fun s => s.files = files :=
  fun _ hs => ⟨hs, hs⟩

theorem modify {f : Session → Session} (hf : ∀ s, (f s).files = s.files) :
    Calm files (modify f : Action Unit) fun _ => True :=
  fun s hs => ⟨(hf s).trans hs, trivial⟩

theorem say (x : Shown) : Calm files (say x) fun _ => True :=
  (attempt _).bind fun _ _ => modify fun _ => rfl

theorem complain (x : Shown) : Calm files (complain x) fun _ => True :=
  (attempt _).bind fun _ _ => modify fun _ => rfl

theorem record (j : Journal) : Calm files (record j) fun _ => True :=
  modify fun _ => rfl

end Calm

/-! ## Before the write -/

/-- a design of the files of a request: the schema is loaded, the data decoded by it, both are translated, and the validator
accepts the result -/
def Designs (files : Files) (r : ConvertRequest) (st : Settings) (doc : Design.ModelDocument) : Prop :=
  ∃ tree events nodes, loadSchema files r.schema = .ok (tree, events) ∧ loadDataIfGiven files r.data tree = .ok nodes ∧
    Translate.translate st tree nodes = .ok doc ∧ Audit.refuses false (Audit.verdict doc) = false

/-- nothing stands where the output leads, unless the request allows it -/
def Free (files : Files) (r : ConvertRequest) (output : Path) : Prop :=
  files.entry? output = .ok none ∨ r.force = true ∨ r.dryRun = true

theorem calm_guardOutput (files : Files) (r : ConvertRequest) (output : Path) :
    Calm files (guardOutput r output) fun _ => Free files r output := by
  unfold guardOutput
  refine Calm.get.bind fun s hs => (Calm.attempt _).bind fun found hfound => ?_
  rw [hs, mapError_eq_ok_iff] at hfound
  split
  · exact (Calm.complain _).bind fun _ _ => Calm.leave.imp fun _ h => h.elim
  · rename_i hguard
    apply Calm.pure
    rw [Free, hfound]
    cases found <;> cases hforce : r.force <;> cases hdry : r.dryRun <;> simp_all

theorem calm_translated (files : Files) (st : Settings) (tree : Schema.Tree) (nodes : List Instance.DataNode) :
    Calm files (translated st tree nodes) fun x => x = Translate.translate st tree nodes := by
  unfold translated Translate.translate
  rcases run st tree nodes with ⟨e | _, p⟩
  · exact (Calm.record _).bind fun _ _ => Calm.pure rfl
  · exact (Calm.record _).bind fun _ _ => Calm.pure rfl

theorem calm_soundDesign (files : Files) (r : ConvertRequest) (st : Settings) :
    Calm files (soundDesign r st) fun doc => Designs files r st doc := by
  unfold soundDesign
  refine Calm.get.bind fun s hs => ?_
  rw [hs]
  refine (Calm.attempt _).bind fun (tree, events) hschema => (Calm.record events).bind fun _ _ => ?_
  refine Calm.optional (Calm.say _) ((Calm.attempt _).bind fun data hdata => ?_)
  refine (calm_translated files st tree data).bind fun x hx => (Calm.attempt _).bind fun doc hdoc => ?_
  rw [hx, mapError_eq_ok_iff] at hdoc
  dsimp only
  split
  · exact (Calm.throw _).bind fun _ h => h.elim
  · rename_i haccepted
    exact Calm.pure ⟨tree, events, data, hschema, hdata, hdoc, Bool.eq_false_iff.2 haccepted⟩

/-- what was prepared for a write: the text of a design of the files, and where it goes -/
def Prepared (files : Files) (now : Int) (r : ConvertRequest) (output : Path) (doc : Design.ModelDocument) (text : String) :
    Prop :=
  ∃ st, settingsOf now r = .ok st ∧ output = outputFor r st ∧ Free files r output ∧ Designs files r st doc ∧
    doc.write true = .ok text

theorem calm_prepared (files : Files) (now : Int) (r : ConvertRequest) :
    Calm files (prepared now r) fun x => Prepared files now r x.1 x.2.1 x.2.2 := by
  unfold prepared
  refine (Calm.attempt _).bind fun st hst => (calm_guardOutput files r _).bind fun _ hfree => ?_
  refine (calm_soundDesign files r st).bind fun doc hdoc => ?_
  refine Calm.optional (Calm.say _) ((Calm.attempt _).bind fun text htext => Calm.pure ?_)
  exact ⟨st, hst, rfl, hfree, hdoc, mapError_eq_ok_iff.1 htext⟩

/-! ## The write -/

theorem run_say (x : Shown) (s : Session) : ((say x).run s : Except Interrupt Unit × Session) =
    match x with
    | .ok rows => (.ok (), { s with out := s.out ++ rows })
    | .error fault => (.error (.failure (.unprintable fault)), s) := by
  cases x <;> rfl

theorem run_change (c : Change Unit) (s : Session) : ((change c).run s : Except Interrupt Unit × Session) =
    match (c.run s.files : Except FileProblem Unit × Files) with
    | (.ok (), files) => (.ok (), { s with files })
    | (.error problem, files) => (.error (.failure (.unusable problem)), { s with files }) := by
  unfold change
  rw [run_bind]
  change ((do
    modify fun t => { t with files := (c.run s.files : Except FileProblem Unit × Files).2 }
    attempt ((c.run s.files : Except FileProblem Unit × Files).1.mapError .unusable) : Action Unit).run s :
    Except Interrupt Unit × Session) = _
  rcases (c.run s.files : Except FileProblem Unit × Files) with ⟨problem | _, files⟩ <;> rfl

/-- the text of a design of the files stands where the output leads, and no other file has changed; `shown` says whether the
message of success can be shown -/
def Written (files : Files) (now : Int) (r : ConvertRequest) (after : Files) (shown : Bool) : Prop :=
  ∃ output doc text place, Prepared files now r output doc text ∧ after.resolve output = .ok place ∧
    after.read? output = .ok (some text) ∧ (∀ q, q ≠ place → after.fileAt? q = files.fileAt? q) ∧
    (wrote doc output).isOk = shown

/-- **How the steps end.** No file has changed, and only a run that was to write nothing has succeeded; or the design is
written, and the run has succeeded if its message can be shown. -/
theorem run_convertSteps {s t : Session} {result : Except Interrupt Unit}
    (h : ((convertSteps now r).run s : Except Interrupt Unit × Session) = (result, t)) :
    ((∀ q, t.files.fileAt? q = s.files.fileAt? q) ∧ (result = .ok () → r.dryRun = true) ∨
      r.dryRun = false ∧ Written s.files now r t.files result.isOk) ∧
    ∀ code, result = .error (.exit code) → code = 1 := by
  have hprepared := calm_prepared s.files now r s rfl
  unfold convertSteps at h
  rw [run_bind] at h
  rcases hrun : ((prepared now r).run s : Except Interrupt (Path × Design.ModelDocument × String) × Session) with
    ⟨e | ⟨output, doc, text⟩, t1⟩
  · rw [hrun] at h hprepared
    cases h
    refine ⟨Or.inl ⟨fun q => by rw [hprepared.1], fun hok => by cases hok⟩, fun code hc => hprepared.2 code ?_⟩
    cases hc
    rfl
  rw [hrun] at h hprepared
  obtain ⟨hfiles, hprepared⟩ := hprepared
  dsimp only at h hprepared
  cases hdry : r.dryRun with
  | true =>
    rw [hdry, if_pos rfl] at h
    have hsaid := Calm.say (wouldWrite text output) t1 hfiles
    rw [h] at hsaid
    cases result with
    | ok => exact ⟨Or.inl ⟨fun q => by rw [hsaid.1], fun _ => rfl⟩, fun code hc => by cases hc⟩
    | error e =>
      refine ⟨Or.inl ⟨fun q => by rw [hsaid.1], fun _ => rfl⟩, fun code hc => hsaid.2 code ?_⟩
      cases hc
      rfl
  | false =>
    rw [hdry, if_neg Bool.false_ne_true, run_bind, run_change, hfiles] at h
    rcases hwrite : ((Files.write output text).run s.files : Except FileProblem Unit × Files) with ⟨problem | ⟨⟩, after⟩
    · rw [hwrite] at h
      cases h
      exact ⟨Or.inl ⟨Files.fileAt?_of_write_error hwrite, fun hok => by cases hok⟩, fun code hc => by cases hc⟩
    rw [hwrite] at h
    dsimp only at h
    rw [run_say] at h
    have hend : t.files = after ∧ (wrote doc output).isOk = result.isOk ∧ ∀ code, result ≠ .error (.exit code) := by
      cases hshown : wrote doc output <;> rw [hshown] at h <;> cases h <;> simp [Except.isOk, Except.toBool]
    obtain ⟨place, hplace, hread, hothers⟩ := Files.run_write hwrite
    refine ⟨Or.inr ⟨rfl, output, doc, text, place, hprepared, ?_⟩, fun code hc => absurd hc (hend.2.2 code)⟩
    rw [hend.1]
    exact ⟨hplace, hread, hothers, hend.2.1⟩

/-! ## The command -/

/-- a command that is handled ends as its steps do; where they fail it shows a notice and ends with code 1 -/
theorem run_handled (details : Bool) (a : Action Unit) (s : Session) :
    ((handled details a).run s : Except Interrupt Unit × Session) =
      match (a.run s : Except Interrupt Unit × Session) with
      | (.ok (), t) => (.ok (), t)
      | (.error (.exit code), t) => (.error (.exit code), t)
      | (.error (.failure f), t) =>
        match f.notice.rows details with
        | .ok rows => (.error (.exit 1), { t with notices := t.notices ++ rows })
        | .error fault => (.error (.failure (.unprintable fault)), t) := by
  unfold handled
  rw [run_bind]
  change ((match (a.run s : Except Interrupt Unit × Session) with
    | (.ok (), after) => set after
    | (.error (.exit code), after) => do
      set after
      leave code
    | (.error (.failure f), after) => do
      set after
      let rows ← rowsOf (f.notice.rows details)
      modify fun t => { t with notices := t.notices ++ rows }
      leave 1 : Action Unit).run s : Except Interrupt Unit × Session) = _
  rcases (a.run s : Except Interrupt Unit × Session) with ⟨(code | f) | ⟨⟩, t⟩
  · rfl
  · dsimp only
    cases f.notice.rows details <;> rfl
  · rfl

/-- how a handled command ends, and that a notice changes no file -/
theorem runCommand_handled (details : Bool) {a : Action Unit} {s : Session} {result : Except Interrupt Unit}
    (ha : (a.run (.start files) : Except Interrupt Unit × Session) = (result, s))
    (hcode : ∀ code, result = .error (.exit code) → code = 1) :
    ∃ t, t.files = s.files ∧ ∃ out, runCommand (handled details a) files = (out, t) ∧ (out = .ok 0 ↔ result = .ok ()) ∧
      (out = .ok 0 ∨ out = .ok 1 ∨ ∃ fault, out = .error (.unprintable fault)) := by
  unfold runCommand
  rw [run_handled, ha]
  rcases result with (code | f) | ⟨⟩
  · obtain rfl := hcode code rfl
    exact ⟨s, rfl, .ok 1, rfl, by simp, Or.inr (Or.inl rfl)⟩
  · dsimp only
    cases f.notice.rows details with
    | ok rows => exact ⟨{ s with notices := s.notices ++ rows }, rfl, .ok 1, rfl, by simp, Or.inr (Or.inl rfl)⟩
    | error fault => exact ⟨s, rfl, _, rfl, by simp, Or.inr (Or.inr ⟨fault, rfl⟩)⟩
  · exact ⟨s, rfl, .ok 0, rfl, by simp, Or.inl rfl⟩

/-- **What a conversion leaves behind.** A file that has changed stands where the output leads. No file changes in a dry run, or
where the output is there already and is not to be overwritten. A run that ends with code 0 and is no dry run has put the text
of a design there: the translation of the files, which the validator accepts. A run that ends otherwise has changed no file, or
it has written the design and its message of success cannot be shown. The code is 0 or 1, unless the notice of a failure cannot
be shown. -/
theorem runCommand_convert {result : Except Failure Nat} {s : Session}
    (h : runCommand (convert now r) files = (result, s)) :
    (∀ q, s.files.fileAt? q ≠ files.fileAt? q →
      ∃ st, settingsOf now r = .ok st ∧ s.files.resolve (outputFor r st) = .ok q) ∧
    (r.dryRun = true → ∀ q, s.files.fileAt? q = files.fileAt? q) ∧
    (∀ st e, settingsOf now r = .ok st → files.entry? (outputFor r st) = .ok (some e) → r.force = false →
      ∀ q, s.files.fileAt? q = files.fileAt? q) ∧
    (result = .ok 0 → r.dryRun = false → Written files now r s.files true) ∧
    (result ≠ .ok 0 → (∀ q, s.files.fileAt? q = files.fileAt? q) ∨ Written files now r s.files false) ∧
    (result = .ok 0 ∨ result = .ok 1 ∨ ∃ fault, result = .error (.unprintable fault)) := by
  rcases hsteps : ((convertSteps now r).run (.start files) : Except Interrupt Unit × Session) with ⟨ended, t⟩
  obtain ⟨hend, hcode⟩ := run_convertSteps hsteps
  obtain ⟨u, hfiles, out, hrun, hout, hcodes⟩ := runCommand_handled r.verbose hsteps hcode
  obtain ⟨rfl, rfl⟩ := Prod.mk.inj (hrun.symm.trans h)
  rw [← hfiles] at hend
  change ((∀ q, u.files.fileAt? q = files.fileAt? q) ∧ (ended = .ok () → r.dryRun = true) ∨
    r.dryRun = false ∧ Written files now r u.files ended.isOk) at hend
  rcases hend with ⟨hsame, hdry⟩ | ⟨hdry, hwritten⟩
  · refine ⟨fun q hq => absurd (hsame q) hq, fun _ => hsame, fun _ _ _ _ _ => hsame, fun hok hno => ?_,
      fun _ => Or.inl hsame, hcodes⟩
    rw [hdry (hout.1 hok)] at hno
    cases hno
  · have hplace := hwritten
    obtain ⟨output, doc, text, place, ⟨st, hst, rfl, hfree, -⟩, hresolve, -, hothers, -⟩ := hplace
    refine ⟨fun q hq => ⟨st, hst, ?_⟩, fun hyes => ?_, fun st' e hst' he hforce => ?_, fun hok _ => ?_, fun hno => ?_, hcodes⟩
    · rw [hresolve, not_imp_comm.1 (hothers q) hq]
    · rw [hdry] at hyes
      cases hyes
    · -- the output was free, so nothing stood there
      cases hst.symm.trans hst'
      rw [Free, he, hforce, hdry] at hfree
      simp at hfree
    · rw [hout.1 hok] at hwritten
      exact hwritten
    · refine Or.inr ?_
      have hfailed : ended.isOk = false := by
        cases ended with
        | ok => exact absurd (hout.2 rfl) hno
        | error e => rfl
      rw [hfailed] at hwritten
      exact hwritten

-- an output whose name reads as a closing tag: the message of success cannot be shown
example : (wrote (.new "urn:m" []) (.ofText "out[/x].xml")).isOk = false := by decide +kernel

/-- an output that is there already -/
def occupiedFiles : Files :=
  ⟨[(.ofText "out.xml", .file "kept")]⟩

/-- a request that is not to overwrite its output -/
def occupiedRequest : ConvertRequest :=
  ⟨.ofText "s.yaml", none, some (.ofText "out.xml"), "tank", false, false, false⟩

/-- the output that is there already is kept, and the command ends with code 1 -/
theorem occupied_kept : ∃ s, runCommand (convert 0 occupiedRequest) occupiedFiles = (.ok 1, s) ∧
    ∀ q, s.files.fileAt? q = occupiedFiles.fileAt? q := by
  have hcode : (runCommand (convert 0 occupiedRequest) occupiedFiles).1.toOption = some 1 := by decide +kernel
  have hsettings : (settingsOf 0 occupiedRequest).toOption.isSome = true := by decide +kernel
  have hentry : occupiedFiles.entry? (.ofText "out.xml") = .ok (some (.file "kept")) := by decide +kernel
  obtain ⟨st, hst⟩ := ok_of_isSome hsettings
  rcases hrun : runCommand (convert 0 occupiedRequest) occupiedFiles with ⟨f | code, s⟩
  · rw [hrun] at hcode
    cases hcode
  · rw [hrun] at hcode
    obtain rfl : code = 1 := Option.some.inj hcode
    obtain ⟨-, -, hkept, -⟩ := runCommand_convert hrun
    exact ⟨s, rfl, hkept st (.file "kept") hst hentry rfl⟩

end YangDesign.Command
