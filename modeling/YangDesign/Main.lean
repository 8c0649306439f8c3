/-
The program: reads the files that a command line names, runs the command, shows what it printed and writes what it changed.
-/
import Std.Time.DateTime.Timestamp
import YangDesign.Command.Arguments

namespace YangDesign.Command

/-- what stands at a path, if anything does -/
def entryAt (p : Path) : IO (Option Entry) := do
  try return some (.file (← IO.FS.readFile p.text))
  catch
    | .noFileOrDirectory .. => return none
    | .inappropriateType _ _ details => return if details = "not a directory" then none else some .folder
    | e => throw e

/-- the files at some paths -/
def filesAt (ps : List Path) : IO Files := do
  let found ← ps.eraseDups.mapM fun p => do return (← entryAt p).map fun e => (p, e)
  return ⟨found.filterMap id⟩

/-- writes the files and makes the folders that a run has changed -/
def writeChanges (before after : Files) : IO Unit := do
  for (p, e) in after.entries do
    if before.entryAt? p != some e then
      match e with
      | .folder => IO.FS.createDirAll p.text
      | .file text => IO.FS.writeFile p.text text

/-- the seconds since 1970-01-01T00:00:00Z -/
def currentTime : IO Int := do
  return (← Std.Time.Timestamp.now).toSecondsSinceUnixEpoch.val

/-- runs a request and answers its exit code -/
def Request.perform (r : Request) : IO UInt32 := do
  let before ← filesAt r.places
  let (result, run) := runCommand (r.action (← currentTime)) before
  for event in run.journal.from r.level do IO.eprintln event.message
  for row in run.out do IO.println row
  for row in run.errors ++ run.notices do IO.eprintln row
  writeChanges before run.files
  match result with
  | .ok code => return code.toUInt32
  | .error f =>
    if let .ok rows := f.notice.rows false then
      for row in rows do IO.eprintln row
    return 1

end YangDesign.Command

/-- runs the command line -/
def main (words : List String) : IO UInt32 := do
  match YangDesign.Command.Request.read words with
  | .ok r => r.perform
  | .error fault =>
    IO.eprintln fault.message
    return 2
