/-
Loading of schema files and data files, which are YAML or JSON with a mapping at the top.
-/
import YangDesign.Command.Failure
import YangDesign.Instance.Decode
import YangDesign.Schema.Check
import YangDesign.Yaml.Reading

namespace YangDesign.Command

/-- endings of the files that are loaded -/
def documentKinds : List String :=
  [".yaml", ".yml", ".json"]

/-- the members of the mapping in a file -/
def loadMembers (files : Files) (p : Path) : Except Failure (List (Value × Value)) :=
  let refuse (fault : LoadFault) := Except.error (Failure.unloadable ⟨p, fault⟩)
  match files.entry? p with
  | .error problem => .error (.unusable problem)
  | .ok none => refuse .notFound
  | .ok (some .folder) => refuse .notFile
  | .ok (some (.file text)) =>
    if documentKinds.contains p.kind then
      match Yaml.read (.ofList (Text.unifyLines text.toList)) with
      | .error .malformed => refuse .malformed
      | .error fault => .error (.unreadableScalar fault)
      | .ok none | .ok (some .null) => refuse .empty
      | .ok (some v) =>
        match v.head with
        | .map ms => .ok ms
        | _ => refuse (.notMapping v.kindName)
    else refuse (.unsupported p.kind)

/-- the result of a check -/
def checked {α : Type} : Input.Checked α → Except Failure α
  | .ok a => .ok a
  | .faulty fs => .error (.faulty fs)
  | .stopped reason => .error (.stopped reason)

/-- the schema document in a file -/
def loadDocument (files : Files) (p : Path) : Except Failure Schema.Document := do
  checked (Schema.Document.check (.map (← loadMembers files p)))

/-- the resolved schema in a file, and what happened while it was resolved -/
def loadSchema (files : Files) (p : Path) : Except Failure (Schema.Tree × Journal) := do
  let d ← loadDocument files p
  let t ← d.resolve.mapError .unresolved
  return (t, d.events)

/-- the data in a file, decoded by a schema -/
def loadData (files : Files) (p : Path) (t : Schema.Tree) : Except Failure (List Instance.DataNode) := do
  (Instance.decode t (← loadMembers files p)).mapError .misfit

/-- the data in a file if there is one -/
def loadDataIfGiven (files : Files) (p : Option Path) (t : Schema.Tree) : Except Failure (List Instance.DataNode) :=
  match p with
  | some p => loadData files p t
  | none => .ok []

/-- the failures of a check that are answers: those of loading, checking, resolving and decoding -/
def Failure.findings? : Failure → Option (List String)
  | .unloadable f => some [f.message]
  | .faulty fs => some (fs.map Input.Fault.line)
  | .unresolved (.unresolved cause path) => some [Schema.ResolutionFailure.message (.unresolved cause path)]
  | .misfit (.misfit cause path) => some [Instance.DataFailure.message (.misfit cause path)]
  | _ => none

/-- what is wrong with a schema file, or else with a data file -/
def findings (files : Files) (schema : Path) (data : Option Path) : Except Failure (List String) :=
  match (do
    let (t, _) ← loadSchema files schema
    loadDataIfGiven files data t) with
  | .ok _ => .ok []
  | .error f =>
    match f.findings? with
    | some lines => .ok lines
    | none => .error f

/-- a design file in short -/
def loadSummary (files : Files) (p : Path) : Except Failure Design.Summary :=
  match files.read? p with
  | .error problem => .error (.unusable problem)
  | .ok none => .error (.unreadableDesign ⟨p, none⟩)
  | .ok (some text) => (Design.readSummary text).mapError fun
    | .invalidTag tag => .invalidTag tag
    | fault => .unreadableDesign ⟨p, some fault⟩

end YangDesign.Command
