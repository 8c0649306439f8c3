/-
Reading of the nodes of a document from its tokens by the rules of the grammar.

A node without a tag gets one by its kind, and a plain scalar by its text. A second anchor of a name is refused, and so are an
alias whose anchor has not come before and a second document.
-/
import YangDesign.Yaml.Lexer
import YangDesign.Yaml.Node

namespace YangDesign.Yaml

open Text

/-- what is left to read, what names stand for, the nodes so far, and how many nodes are open around the next one -/
structure Reading where
  scan : Scan
  handles : List (String × String)
  anchors : List (String × Nat)
  nodes : Graph
  depth : Nat
  deriving Repr

/-- tag handles that need no directive -/
def standardHandles : List (String × String) :=
  [("!", "!"), ("!!", standardTags)]

/-- reading of nodes -/
abbrev NodeReader (α : Type) := StateT Reading (Except Fault) α

/-- a step on the tokens -/
def scanning {α : Type} (step : Scan.Step α) : NodeReader α := do
  let r ← get
  let (a, scan) ← step.run r.scan
  set { r with scan }
  return a

/-- the token ahead -/
def nextToken : NodeReader (Option Token) :=
  scanning Scan.next?

/-- moves over the token ahead -/
def passToken : NodeReader Unit :=
  scanning Scan.take

/-- moves over a token if it is ahead; tells whether it was -/
def accept (t : Token) : NodeReader Bool := do
  if (← nextToken) == some t then
    passToken
    return true
  else return false

/-- moves over a token that must be ahead -/
def expect (t : Token) : NodeReader Unit := do
  if !(← accept t) then throw .malformed

/-- whether one of some tokens is ahead -/
def isAhead (ts : List Token) : NodeReader Bool :=
  return (← nextToken).any ts.contains

/-- the anchor and the tag before a node, in either order -/
def readProperties : NodeReader (Option String × Option (Option String × String)) := do
  match ← nextToken with
  | some (.anchor name) =>
    passToken
    match ← nextToken with
    | some (.tag handle suffix) =>
      passToken
      return (some name, some (handle, suffix))
    | _ => return (some name, none)
  | some (.tag handle suffix) =>
    passToken
    match ← nextToken with
    | some (.anchor name) =>
      passToken
      return (some name, some (handle, suffix))
    | _ => return (none, some (handle, suffix))
  | _ => return (none, none)

/-- a tag in full -/
def fullTag : Option (Option String × String) → NodeReader (Option String)
  | none => return none
  | some (none, uri) => return some uri
  | some (some handle, suffix) => do
    match (← get).handles.lookup handle with
    | some start => return some (start ++ suffix)
    | none => throw .malformed

/-- the tag of a node that is no scalar -/
def collectionTag (default : Tag) : Option String → Tag
  | none => default
  | some uri => if uri = "!" then default else .ofUri uri

/-- the tag of a scalar -/
def scalarTag (tag : Option String) (text : Coded) (isPlain : Bool) : Tag :=
  match tag with
  | none => if isPlain then .ofPlain text else .text
  | some uri => if uri = "!" then .ofPlain text else .ofUri uri

/-- puts a node at the next place -/
def addNode (n : Node) : NodeReader Nat :=
  modifyGet fun r => (r.nodes.size, { r with nodes := r.nodes.push n })

/-- puts a node at the next place and gives it its anchor -/
def addAnchored (anchor : Option String) (n : Node) : NodeReader Nat := do
  let place ← addNode n
  match anchor with
  | some name => modify fun r => { r with anchors := (name, place) :: r.anchors }
  | none => pure ()
  return place

/-- gives a node its content -/
def fillNode (place : Nat) (content : Content) : NodeReader Unit :=
  modify fun r => { r with nodes := r.nodes.setContent place content }

/-- an anchor must not have been used before -/
def checkAnchor : Option String → NodeReader Unit
  | none => return ()
  | some name => do if ((← get).anchors.lookup name).isSome then throw .malformed

/-- number of nodes that may be open around a node -/
def depthLimit : Nat := 487

/-- reads inside of one more open node -/
def nested {α : Type} (r : NodeReader α) : NodeReader α := do
  if (← get).depth ≥ depthLimit then throw .tooDeep
  modify fun r => { r with depth := r.depth + 1 }
  let a ← r
  modify fun r => { r with depth := r.depth - 1 }
  return a

mutual

/-- a node; `block` allows block collections and `indentless` entries at the column of the mapping around them -/
def readNode : Nat → Bool → Bool → NodeReader Nat
  | 0, _, _ => throw .malformed
  | fuel + 1, block, indentless => do
    match ← nextToken with
    | some (.alias name) =>
      passToken
      match (← get).anchors.lookup name with
      | some place => return place
      | none => throw .malformed
    | _ =>
      let (anchor, property) ← readProperties
      nested (readContent fuel block indentless anchor (← fullTag property))

/-- what follows the properties of a node; only a node with properties may be empty -/
def readContent : Nat → Bool → Bool → Option String → Option String → NodeReader Nat
  | 0, _, _, _, _ => throw .malformed
  | fuel + 1, block, indentless, anchor, tag => do
    let hasProperties := anchor.isSome || tag.isSome
    match ← nextToken with
    | some (.scalar text isPlain) =>
      passToken
      checkAnchor anchor
      addAnchored anchor ⟨scalarTag tag text isPlain, .scalar text⟩
    | next =>
      let isSequence := next == some .flowSequenceStart || (next == some .blockEntry && indentless) ||
        (next == some .blockSequenceStart && block)
      let isMapping := next == some .flowMappingStart || (next == some .blockMappingStart && block)
      if !isSequence && !isMapping && !hasProperties then throw .malformed
      checkAnchor anchor
      if isSequence then
        let place ← addAnchored anchor ⟨collectionTag .sequence tag, .sequence []⟩
        fillNode place (.sequence (← readItems fuel next))
        return place
      else if isMapping then
        let place ← addAnchored anchor ⟨collectionTag .mapping tag, .mapping []⟩
        fillNode place (.mapping (← readMembers fuel next))
        return place
      else addAnchored anchor ⟨scalarTag tag (.text "") true, .scalar (.text "")⟩

/-- the items of a sequence, whose first token is ahead -/
def readItems : Nat → Option Token → NodeReader (List Nat)
  | 0, _ => throw .malformed
  | fuel + 1, start => do
    if start == some .blockEntry then readIndentlessItems fuel
    else
      passToken
      if start == some .flowSequenceStart then readFlowItems fuel true else readBlockItems fuel

/-- the members of a mapping, whose first token is ahead -/
def readMembers : Nat → Option Token → NodeReader (List Member)
  | 0, _ => throw .malformed
  | fuel + 1, start => do
    passToken
    if start == some .flowMappingStart then readFlowMembers fuel true else readBlockMembers fuel

/-- a node, or an empty place before one of some tokens -/
def readUnless : Nat → Bool → Bool → List Token → NodeReader Nat
  | 0, _, _, _ => throw .malformed
  | fuel + 1, block, indentless, ends => do
    if ← isAhead ends then addNode .empty else readNode fuel block indentless

/-- the value of a member if there is one, or an empty place before one of some tokens -/
def readMemberValue : Nat → Bool → List Token → NodeReader Nat
  | 0, _, _ => throw .malformed
  | fuel + 1, block, ends => do
    if ← accept .value then readUnless fuel block block ends else addNode .empty

/-- the entries of a block sequence -/
def readBlockItems : Nat → NodeReader (List Nat)
  | 0 => throw .malformed
  | fuel + 1 => do
    if ← accept .blockEntry then
      let n ← readUnless fuel true false [.blockEntry, .blockEnd]
      return n :: (← readBlockItems fuel)
    else
      expect .blockEnd
      return []

/-- the entries of a sequence at the column of the mapping around it -/
def readIndentlessItems : Nat → NodeReader (List Nat)
  | 0 => throw .malformed
  | fuel + 1 => do
    if ← accept .blockEntry then
      let n ← readUnless fuel true false [.blockEntry, .key, .value, .blockEnd]
      return n :: (← readIndentlessItems fuel)
    else return []

/-- the members of a block mapping -/
def readBlockMembers : Nat → NodeReader (List Member)
  | 0 => throw .malformed
  | fuel + 1 => do
    if ← accept .key then
      let k ← readUnless fuel true true [.key, .value, .blockEnd]
      let v ← readMemberValue fuel true [.key, .value, .blockEnd]
      return (k, v) :: (← readBlockMembers fuel)
    else
      expect .blockEnd
      return []

/-- the items of a sequence in brackets; an item with a key is a mapping of its own -/
def readFlowItems : Nat → Bool → NodeReader (List Nat)
  | 0, _ => throw .malformed
  | fuel + 1, isFirst => do
    if ← accept .flowSequenceEnd then return []
    if !isFirst then expect .flowEntry
    if ← accept .key then
      let place ← addNode ⟨.mapping, .mapping []⟩
      let k ← readUnless fuel false false [.value, .flowEntry, .flowSequenceEnd]
      let v ← readMemberValue fuel false [.flowEntry, .flowSequenceEnd]
      fillNode place (.mapping [(k, v)])
      return place :: (← readFlowItems fuel false)
    else if ← accept .flowSequenceEnd then return []
    else
      let n ← readNode fuel false false
      return n :: (← readFlowItems fuel false)

/-- the members of a mapping in brackets; a member without a key is one without a value -/
def readFlowMembers : Nat → Bool → NodeReader (List Member)
  | 0, _ => throw .malformed
  | fuel + 1, isFirst => do
    if ← accept .flowMappingEnd then return []
    if !isFirst then expect .flowEntry
    if ← accept .key then
      let k ← readUnless fuel false false [.value, .flowEntry, .flowMappingEnd]
      let v ← readMemberValue fuel false [.flowEntry, .flowMappingEnd]
      return (k, v) :: (← readFlowMembers fuel false)
    else if ← accept .flowMappingEnd then return []
    else
      let k ← readNode fuel false false
      return (k, ← addNode .empty) :: (← readFlowMembers fuel false)

end

/-- the directives before a document; `seen` tells whether there was a version, and `handles` the tag handles so far -/
def readDirectives : Nat → Bool → List (String × String) → NodeReader (List (String × String))
  | 0, _, _ => throw .malformed
  | fuel + 1, seen, handles => do
    match ← nextToken with
    | some (.directive d) =>
      passToken
      match d with
      | .version major _ =>
        if seen || major != 1 then throw .malformed
        readDirectives fuel true handles
      | .tag handle start =>
        if (handles.lookup handle).isSome then throw .malformed
        readDirectives fuel seen ((handle, start) :: handles)
      | .reserved => readDirectives fuel seen handles
    | _ => return handles ++ standardHandles

/-- whether a token starts the content of a document -/
def startsContent : Option Token → Bool
  | none | some (.directive _) | some .documentStart | some .documentEnd => false
  | _ => true

/-- moves over the ends of a document -/
def passDocumentEnds : Nat → NodeReader Unit
  | 0 => throw .malformed
  | fuel + 1 => do if ← accept .documentEnd then passDocumentEnds fuel

/-- the place of the root of the only document of a text; nothing but ends of the document may follow it -/
def readRoot (fuel : Nat) : NodeReader Nat := do
  if !startsContent (← nextToken) then
    let handles ← readDirectives fuel false []
    modify fun r => { r with handles }
    expect .documentStart
  let root ← if startsContent (← nextToken) then readNode fuel true false else addNode .empty
  passDocumentEnds fuel
  if (← nextToken).isSome then
    let _ ← readDirectives fuel false []
    throw .malformed
  return root

/-- bound for the steps of reading a text: each token takes a few, and each character yields a few tokens -/
def stepsFor (cs : List Char) : Nat :=
  24 * (cs.length + 2)

/-- the nodes of the only document of a text and the place of its root; none if there is no document -/
def documentOf (cs : List Char) : Except Fault (Option (Graph × Nat)) := do
  let start : Reading := ⟨.start cs, standardHandles, [], #[], 0⟩
  let (next, r) ← nextToken.run start
  match next with
  | none => return none
  | some _ =>
    let (root, r) ← (readRoot (stepsFor cs)).run r
    return some (r.nodes, root)

end YangDesign.Yaml
