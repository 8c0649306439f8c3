/-
The files that a command sees, and what it leaves behind.

Entries stand at resolved paths, in which two dots come first if at all. A folder is there if it is listed, if anything is
listed below it, or if it holds the working folder. A path is resolved name by name, and every name but the last must be that
of a folder.
-/
import YangDesign.Assoc
import YangDesign.Command.Path
import YangDesign.Text.Quoted

namespace YangDesign.Command

/-- what stands at a path -/
inductive Entry where
  | file (text : String)
  | folder
  deriving DecidableEq, Repr

/-- why a file cannot be used -/
inductive FileProblem where
  | missing (file : Option String)
  | denied (file : Option String)
  | occupied (path : Path)
  | notFolder (path : Path)
  | isFolder (path : Path)
  | tooLong (path : Path)
  | nullInName
  deriving DecidableEq, Repr

/-- wording of a problem -/
def FileProblem.message : FileProblem → String
  | .missing file => "File not found: " ++ file.getD "unknown"
  | .denied file => "Permission denied: " ++ file.getD "unknown"
  | .occupied path => "[Errno 17] File exists: " ++ Text.quoted path.text
  | .notFolder path => "[Errno 20] Not a directory: " ++ Text.quoted path.text
  | .isFolder path => "[Errno 21] Is a directory: " ++ Text.quoted path.text
  | .tooLong path => "[Errno 36] File name too long: " ++ Text.quoted path.text
  | .nullInName => "embedded null byte"

/-- the files by path -/
structure Files where
  entries : List (Path × Entry)
  deriving DecidableEq, Repr

/-- a change of the files; one that fails on the way leaves what was done before -/
abbrev Change (α : Type) := ExceptT FileProblem (StateM Files) α

/-- bytes that a name may have -/
def maxNameBytes : Nat := 255

/-- bytes that a path may have -/
def maxPathBytes : Nat := 4095

namespace Files

/-- what stands at a resolved path -/
def entryAt? (fs : Files) (p : Path) : Option Entry :=
  match fs.entries.lookup p with
  | some e => some e
  | none => if p.parts.all (· == "..") || fs.entries.any fun (q, _) => q.isBelow p then some .folder else none

/-- follows names from a resolved path on, on the way to `whole` -/
def follow (fs : Files) (whole : Path) (p : Path) : List String → Except FileProblem Path
  | [] => .ok p
  | name :: names =>
    match fs.entryAt? p with
    | none => .error (.missing (some whole.text))
    | some (.file _) => .error (.notFolder whole)
    | some .folder =>
      if name.utf8ByteSize > maxNameBytes then .error (.tooLong whole) else fs.follow whole (p.step name) names

/-- the resolved form of a path -/
def resolve (fs : Files) (p : Path) : Except FileProblem Path :=
  if p.text.toList.contains '\x00' then .error .nullInName
  else if p.text.utf8ByteSize > maxPathBytes then .error (.tooLong p)
  else fs.follow p p.start p.parts

/-- what stands at a path; only a path that is too long cannot be looked up -/
def entry? (fs : Files) (p : Path) : Except FileProblem (Option Entry) :=
  match fs.resolve p with
  | .ok q => .ok (fs.entryAt? q)
  | .error (.tooLong q) => .error (.tooLong q)
  | .error _ => .ok none

/-- the text of a file -/
def read? (fs : Files) (p : Path) : Except FileProblem (Option String) :=
  (fs.entry? p).map fun
    | some (.file text) => some text
    | _ => none

/-- a resolved path with an entry in place of the one it had -/
def place (fs : Files) (p : Path) (e : Entry) : Files :=
  ⟨fs.entries.filter (·.1 != p) ++ [(p, e)]⟩

/-- whether a folder on the way to a path is missing -/
def lacksWay (fs : Files) (p : Path) : Bool :=
  match fs.resolve p with
  | .error (.missing _) => true
  | _ => false

/-- makes a folder where nothing stands; one that is there is kept -/
def makeOne (p : Path) : Change Unit := do
  let fs ← get
  let q ← fs.resolve p
  match fs.entryAt? q with
  | some .folder => return ()
  | some (.file _) => throw (.occupied p)
  | none => set (fs.place q .folder)

/-- makes the folder of the first names of a path, after the folders above it that are missing -/
def makeFolders (p : Path) : Nat → Change Unit
  | 0 => return ()
  | n + 1 => do
    let folder := { p with parts := p.parts.take (n + 1) }
    if (← get).lacksWay folder then makeFolders p n
    makeOne folder

/-- writes a file, after the folders above it that are missing -/
def write (p : Path) (text : String) : Change Unit := do
  makeFolders p.parent p.parent.parts.length
  let fs ← get
  let q ← fs.resolve p
  if fs.entryAt? q = some .folder then throw (.isFolder p)
  set (fs.place q (.file text))

/-- the files in the working folder that are not what they were before, by path in order -/
def changesSince (fs before : Files) : List (String × String) :=
  Text.sortOn (·.1) (fs.entries.filterMap fun
    | (p, .file text) =>
      if p.root.isEmpty && p.parts.head? != some ".." && before.entryAt? p != some (.file text) then some (p.text, text)
      else none
    | _ => none)

end Files

end YangDesign.Command
