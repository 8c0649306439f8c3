/-
A run of a command: what it prints to the console, to the console for errors and as notices of failures, the files it leaves
behind and what happened on the way.
-/
import YangDesign.Command.Failure

namespace YangDesign.Command

open Console

/-- a run so far -/
structure Session where
  out : Rows
  errors : Rows
  notices : Rows
  files : Files
  journal : Journal
  deriving Repr

/-- a run that has not begun -/
def Session.start (files : Files) : Session :=
  ⟨[], [], [], files, []⟩

/-- why a command ends before its last step -/
inductive Interrupt where
  | exit (code : Nat)
  | failure (f : Failure)
  deriving Repr

/-- a step of a command -/
abbrev Action (α : Type) := ExceptT Interrupt (StateM Session) α

/-- the result of something that may fail -/
def attempt {α : Type} : Except Failure α → Action α
  | .ok a => return a
  | .error f => throw (.failure f)

/-- rows that can be shown -/
def rowsOf (s : Shown) : Action Rows :=
  attempt (s.mapError .unprintable)

/-- prints to the console -/
def say (s : Shown) : Action Unit := do
  let rows ← rowsOf s
  modify fun t => { t with out := t.out ++ rows }

/-- prints to the console for errors -/
def complain (s : Shown) : Action Unit := do
  let rows ← rowsOf s
  modify fun t => { t with errors := t.errors ++ rows }

/-- keeps a record of what happened -/
def record (j : Journal) : Action Unit :=
  modify fun t => { t with journal := t.journal ++ j }

/-- changes the files -/
def change (c : Change Unit) : Action Unit := do
  let (result, files) := c.run (← get).files
  modify fun t => { t with files }
  attempt (result.mapError .unusable)

/-- ends the command -/
def leave {α : Type} (code : Nat) : Action α :=
  throw (.exit code)

/-- a command whose failures are shown as notices, after which it ends with code 1 -/
def handled (details : Bool) (a : Action Unit) : Action Unit := do
  let before ← get
  match a.run before with
  | (.ok (), after) => set after
  | (.error (.exit code), after) => do
    set after
    leave code
  | (.error (.failure f), after) => do
    set after
    let rows ← rowsOf (f.notice.rows details)
    modify fun t => { t with notices := t.notices ++ rows }
    leave 1

/-- the exit code of a command, or the failure it did not handle, and its run -/
def runCommand (a : Action Unit) (files : Files) : Except Failure Nat × Session :=
  match a.run (.start files) with
  | (.ok (), s) => (.ok 0, s)
  | (.error (.exit code), s) => (.ok code, s)
  | (.error (.failure f), s) => (.error f, s)

end YangDesign.Command
