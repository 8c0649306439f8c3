/-
The value that a YAML document stands for. JSON documents are read by the same rules.

A scalar gets its value where it is met. A collection is built empty there, and its parts are taken in later, in the order in
which the collections were met; so of two faults the one outside comes first, and a collection may hold itself. Of equal keys
the last one counts, at the place of the first.
-/
import YangDesign.Yaml.Document
import YangDesign.Yaml.Merge
import YangDesign.Yaml.Scalar

namespace YangDesign.Yaml

/-- the key of a member; `origin` tells numbers that are not a number apart: the place of its node, or none for the one that
all nodes share -/
structure Key where
  value : Value
  origin : Option Nat
  deriving Repr

/-- whether two keys are the same: nothing equals what is not a number but itself -/
def Key.same (a b : Key) : Bool :=
  match a.value, b.value with
  | .float .nan, .float .nan => a.origin == b.origin
  | v, w => v.sameKey w

/-- what the node at a place became: a value, or a collection of the nodes at other places -/
inductive Built where
  | value (v : Value)
  | list (items : List Nat)
  | pairs (items : List Member)
  | map (members : List (Key × Nat))
  | set (keys : List Key)
  deriving Repr

/-- the nodes, what they became, and the collections whose parts are to be taken in -/
structure Building where
  graph : Graph
  built : Array (Option Built)
  waiting : List Nat
  deriving Repr

/-- a step of building, which may fail -/
abbrev Builder (α : Type) := StateT Building (Except Fault) α

/-- the node at a place -/
def nodeAt (place : Nat) : Builder Node :=
  return (← get).graph.node place

/-- notes what the node at a place became -/
def become (place : Nat) (b : Built) : Builder Unit :=
  modify fun s => { s with built := s.built.set! place (some b) }

/-- the text of a node that should be a scalar; a mapping may have it under the key `=` -/
def scalarText (g : Graph) : Nat → Nat → Except Fault Text.Coded
  | 0, _ => .error .tooDeep
  | fuel + 1, place =>
    match (g.node place).content with
    | .scalar text => .ok text
    | .sequence _ => .error .malformed
    | .mapping ms =>
      match ms.find? fun (k, _) => (g.node k).tag = .value with
      | some (_, v) => scalarText g fuel v
      | none => .error .malformed

/-- whether values of a tag are collections -/
def Tag.isCollection : Tag → Bool
  | .sequence | .mapping | .orderedMapping | .pairs | .set => true
  | _ => false

/-- what a node that is no collection becomes -/
def scalarAt (place : Nat) : Builder Value := do
  let s ← get
  let n := s.graph.node place
  if [Tag.merge, .value, .other].contains n.tag then throw .malformed
  let text ← scalarText s.graph (s.graph.size + 1) place
  match n.tag, n.content with
  | .time, .mapping _ => throw .noMomentText
  | tag, _ => scalarValue tag text

/-- meets the node at a place -/
def meet (place : Nat) : Builder Unit := do
  if ((← get).built.getD place none).isSome then return ()
  if (← nodeAt place).tag.isCollection then
    become place (.list [])
    modify fun s => { s with waiting := s.waiting ++ [place] }
  else become place (.value (← scalarAt place))

/-- meets the key of a member, which must be no collection -/
def meetKey (place : Nat) : Builder Key := do
  meet place
  match (← get).built.getD place none with
  | some (.value v) =>
    let isShared : Bool := match (← nodeAt place).content with
      | .scalar (.text s) => (signAndDigits (Text.lower s.toList)).toOption.any (·.2 == ".nan".toList)
      | _ => false
    return ⟨v, if isShared then none else some place⟩
  | _ => throw .malformed

/-- a member put into a mapping: the value of an equal key is replaced -/
def putMember (k : Key) (v : Nat) : List (Key × Nat) → List (Key × Nat)
  | [] => [(k, v)]
  | (k', v') :: ms => if k.same k' then (k', v) :: ms else (k', v') :: putMember k v ms

/-- takes members in, where some have been before -/
def takeMembers (taken : List (Key × Nat)) : List Member → Builder (List (Key × Nat))
  | [] => return taken
  | (k, v) :: ms => do
    let key ← meetKey k
    meet v
    takeMembers (putMember key v taken) ms

/-- takes the members of a mapping in, with those that it takes over from others -/
def takeMapping (place : Nat) : Builder (List (Key × Nat)) := do
  let s ← get
  let ((), graph) ← (flatten place).run s.graph
  set { s with graph }
  takeMembers [] (graph.node place).members

/-- takes in a pair, which is a mapping with one member -/
def takePair (place : Nat) : Builder Member := do
  match (← nodeAt place).content with
  | .mapping [(k, v)] =>
    meet k
    meet v
    return (k, v)
  | _ => throw .malformed

/-- takes in the parts of a collection -/
def takeParts (place : Nat) : Builder Unit := do
  let n ← nodeAt place
  match n.tag, n.content with
  | .sequence, .sequence items =>
    items.forM meet
    become place (.list items)
  | .orderedMapping, .sequence items | .pairs, .sequence items => become place (.pairs (← items.mapM takePair))
  | .mapping, .mapping _ => become place (.map (← takeMapping place))
  | .set, .mapping _ => become place (.set ((← takeMapping place).map (·.1)))
  | _, _ => throw .malformed

/-- takes in the parts of all collections, at most `fuel` of them -/
def takeAll : Nat → Builder Unit
  | 0 => return ()
  | fuel + 1 => do
    match (← get).waiting with
    | [] => return ()
    | place :: waiting =>
      modify fun s => { s with waiting }
      takeParts place
      takeAll fuel

/-! ## Values -/

/-- values that are finished, by their places -/
abbrev Finished := Array (Option Value)

/-- a value, the places around it that come again in it, and whether some part of it holds itself -/
structure Part where
  value : Value
  again : List Nat
  isTied : Bool
  deriving Repr

/-- a part from other parts -/
def Part.gather (value : Value) (ps : List Part) : Part :=
  ⟨value, (ps.flatMap (·.again)).eraseDups, ps.any (·.isTied)⟩

/-- the part with its place as its name if it holds itself -/
def Part.close (place : Nat) (p : Part) : Part :=
  if p.again.contains place then ⟨.knot place p.value, p.again.filter (· != place), true⟩ else p

/-- what a node became as a part, where `part` answers for other places -/
def Built.part (part : Nat → StateM Finished Part) : Built → StateM Finished Part
  | .value v => return ⟨v, [], false⟩
  | .set keys => return ⟨.set (keys.map (·.value)), [], false⟩
  | .list items => do
    let ps ← items.mapM part
    return .gather (.list (ps.map (·.value))) ps
  | .pairs items => do
    let ps ← items.mapM fun (k, v) => return [← part k, ← part v]
    return .gather (.list (ps.map fun p => .tuple (p.map (·.value)))) ps.flatten
  | .map ms => do
    let ps ← ms.mapM fun (_, v) => part v
    return .gather (.map ((ms.map (·.1.value)).zip (ps.map (·.value)))) ps

/-- the value that the node at a place became, inside of those at the places `around`; one that has nothing to do with values
that hold themselves is kept -/
def valueAt (built : Array (Option Built)) : Nat → List Nat → Nat → StateM Finished Part
  | 0, _, _ => return ⟨.null, [], false⟩
  | fuel + 1, around, place => do
    if around.contains place then return ⟨.again place, [place], true⟩
    match (← get).getD place none, built.getD place none with
    | some v, _ => return ⟨v, [], false⟩
    | none, none => return ⟨.null, [], false⟩
    | none, some b =>
      let p := (← b.part (valueAt built fuel (place :: around))).close place
      if !p.isTied then modify (·.set! place (some p.value))
      return p

/-- the value of the node at a place -/
def valueOf (graph : Graph) (root : Nat) : Except Fault Value := do
  let start : Building := ⟨graph, Array.replicate graph.size none, []⟩
  let ((), s) ← (do meet root; takeAll (graph.size + 1) : Builder Unit).run start
  let (p, _) := (valueAt s.built (graph.size + 1) [] root).run (Array.replicate graph.size none)
  return p.value

/-! ## Documents -/

/-- characters that a document may hold -/
def isPrintable (c : Char) : Bool :=
  let n := c.toNat
  n = 9 || n = 10 || n = 13 || (0x20 ≤ n && n ≤ 0x7E) || n = 0x85 || (0xA0 ≤ n && n != 0xFFFE && n != 0xFFFF)

/-- the value of a document; none if the text holds no document -/
def read (s : String) : Except Fault (Option Value) := do
  let cs := s.toList
  if cs.all isPrintable then
    match ← documentOf cs with
    | some (graph, root) => return some (← valueOf graph root)
    | none => return none
  else throw .malformed

end YangDesign.Yaml
