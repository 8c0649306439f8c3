/-
Names for translated nodes: symbolic names, which are unique, and the names that people see.

A symbolic name is the number of the namespace, the path and a role, in the characters of an identifier. Namespaces are
numbered in the order in which they are first seen. Different paths can meet in one name, so the namer remembers the node
that each name was made for and refuses a second one.
-/
import YangDesign.Assoc
import YangDesign.Design.Name
import YangDesign.Text.Blank
import YangDesign.Text.Form
import YangDesign.Text.Plain
import YangDesign.Text.Upper

namespace YangDesign.Translate

open Design

/-- the node that a name is made for: its namespace and path -/
structure Owner where
  namespaceUri : String
  path : List String
  deriving DecidableEq, Repr

/-- what the namer knows: the namespaces seen, and the owner of every name given out -/
structure Namer where
  target : String
  namespaces : List String
  owners : Assoc String Owner
  deriving Repr

/-- why a node gets no name -/
inductive NamingFault where
  | notSymbol (name : String)
  | clash (name : String) (path other : List String)
  deriving DecidableEq, Repr

/-- characters that an identifier does not admit, spelled with underscores -/
def spell (c : Char) : List Char :=
  if c = '-' then ['_', '_'] else if c = '.' then ['_'] else [c]

/-- a text in the characters of an identifier -/
def symbolText (s : String) : String :=
  .ofList (s.toList.flatMap spell)

/-- the prefix for a namespace number -/
def numberedPrefix (n : Nat) : String :=
  "ns" ++ toString n ++ "__"

namespace Namer

/-- a namer that has seen nothing -/
def new (target : String) : Namer :=
  ⟨target, [], .empty⟩

/-- the namer after a namespace has been seen -/
def see (n : Namer) (uri : String) : Namer :=
  if n.namespaces.contains uri then n else { n with namespaces := n.namespaces ++ [uri] }

/-- the prefix of a namespace, and the namer that has seen it -/
def prefixFor (n : Namer) (uri : String) : String × Namer :=
  let n := n.see uri
  (numberedPrefix (n.namespaces.idxOf uri), n)

/-- the prefixes in the order in which their namespaces were seen -/
def prefixes (n : Namer) : List (String × String) :=
  n.namespaces.zipIdx.map fun (uri, i) => (uri, numberedPrefix i)

/-- the name of a node in a role; the namespace counts as seen even if there is no name -/
def nameFor (n : Namer) (owner : Owner) (role : String) : Except NamingFault SymbolicName × Namer :=
  let (start, n) := n.prefixFor owner.namespaceUri
  let name := symbolText (start ++ "___".intercalate owner.path ++ role)
  if !Text.isSymbol name then (.error (.notSymbol name), n)
  else match n.owners.find? name with
    | none => (.ok ⟨n.target, name⟩, { n with owners := n.owners.insert name owner })
    | some other =>
      if other = owner then (.ok ⟨n.target, name⟩, n) else (.error (.clash name owner.path other.path), n)

end Namer

/-- browse name and display name: `before` capitalizes the name that follows it, the name of the enclosing object stands
before the display name -/
def visibleNames (localName : String) (enclosing : Option String) (before after : String) : String × String :=
  let name := localName ++ after
  let browse := if (Text.trim before).isEmpty then name else before ++ Text.capitalize name
  match enclosing with
  | some outer => (browse, if outer.isEmpty then browse else outer ++ "/" ++ browse)
  | none => (browse, browse)

/-- a description in plain text -/
def describe (description : Option String) : Option String :=
  description.map Text.plain

end YangDesign.Translate
