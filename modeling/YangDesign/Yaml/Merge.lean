/-
Members that a mapping takes over from others. A member under the merge key names a mapping or a sequence of mappings; their
members stand before those that the mapping has itself, the mappings of a sequence in reverse order.
-/
import YangDesign.Yaml.Fault
import YangDesign.Yaml.Node

namespace YangDesign.Yaml

/-- a change of a graph, which may fail -/
abbrev Regraph (α : Type) := StateT Graph (Except Fault) α

/-- the members before the first merge key, the place of the value under it, and the members after it -/
def splitAtMerge? (g : Graph) : List Member → Option (List Member × Nat × List Member)
  | [] => none
  | (k, v) :: ms =>
    if (g.node k).tag = .merge then some ([], v, ms)
    else (splitAtMerge? g ms).map fun (before, source, after) => ((k, v) :: before, source, after)

/-- the places of the mappings that the value under a merge key names -/
def mergeSources (g : Graph) (place : Nat) : Except Fault (List Nat) :=
  match (g.node place).content with
  | .mapping _ => .ok [place]
  | .sequence items =>
    if items.all fun i => match (g.node i).content with | .mapping _ => true | _ => false then .ok items
    else .error .malformed
  | .scalar _ => .error .malformed

/-- the graph after the key `=` became a plain text as a key of some members -/
def plainKeys (g : Graph) (ms : List Member) : Graph :=
  ms.foldl (fun g (k, _) => if (g.node k).tag = .value then g.setTag k .text else g) g

/-- replaces the merge keys of a mapping by the members they stand for, where `merged` are those so far; every merge key that is
replaced costs one unit of `fuel` -/
def flattenFrom : Nat → Nat → List Member → Regraph Unit
  | 0, _, _ => throw .malformed
  | fuel + 1, place, merged => do
    let g ← get
    let members := (g.node place).members
    match splitAtMerge? g members with
    | none => set (plainKeys (g.setContent place (.mapping (merged ++ members))) members)
    | some (before, source, after) =>
      set (g.setContent place (.mapping (before ++ after)))
      let sources ← mergeSources g source
      let taken ← sources.mapM fun s => do
        flattenFrom fuel s []
        return ((← get).node s).members
      flattenFrom fuel place (merged ++ taken.reverse.flatten)

/-- replaces the merge keys of a mapping by the members they stand for -/
def flatten (place : Nat) : Regraph Unit := do
  flattenFrom ((← get).mergeCount + 1) place []

end YangDesign.Yaml
