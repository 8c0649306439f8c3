/-
Paths of files: the names on the way to a file, from a root or from the working folder.

Repeated separators and single dots do not count, so every path has one written form. A name of two dots leads back to the
folder above, but only the files can tell which one that is.
-/
import YangDesign.Text.Lines
import YangDesign.Text.Lower

namespace YangDesign.Command

/-- a path; the root is empty, `/` or `//` -/
structure Path where
  root : String
  parts : List String
  deriving DecidableEq, Repr

namespace Path

/-- the root that a path starts with: two separators are a root of their own, any other number of them is the usual one -/
def rootOf : List Char → String
  | ['/', '/'] => "//"
  | '/' :: '/' :: c :: _ => if c = '/' then "/" else "//"
  | '/' :: _ => "/"
  | _ => ""

/-- the path that a text denotes -/
def ofText (s : String) : Path :=
  let parts := (Text.splitAtEach '/' s.toList).map String.ofList
  ⟨rootOf s.toList, parts.filter fun p => p != "" && p != "."⟩

/-- a path as text -/
def text (p : Path) : String :=
  if p.root.isEmpty && p.parts.isEmpty then "." else p.root ++ "/".intercalate p.parts

/-- the last name of a path -/
def name (p : Path) : String :=
  p.parts.getLast?.getD ""

/-- the folder that holds a path -/
def parent (p : Path) : Path :=
  { p with parts := p.parts.dropLast }

/-- the folder above a path without dots; above the working folder there is a name for every step -/
def above (p : Path) : Path :=
  if p.parts.all (· == "..") then (if p.root.isEmpty then { p with parts := p.parts ++ [".."] } else p) else p.parent

/-- a path one name further: two dots lead back -/
def step (p : Path) (name : String) : Path :=
  if name = ".." then p.above else { p with parts := p.parts ++ [name] }

/-- where a path starts: at the root or in the working folder -/
def start (p : Path) : Path :=
  ⟨if p.root.isEmpty then "" else "/", []⟩

/-- the places that a path leads through, itself included -/
def trail (p : Path) : List Path :=
  (List.range (p.parts.length + 1)).map fun n => (p.parts.take n).foldl step p.start

/-- a path below a folder -/
def child (p : Path) (s : String) : Path :=
  let q := ofText s
  if q.root.isEmpty then { p with parts := p.parts ++ q.parts } else q

/-- whether a path leads through another one -/
def isBelow (p q : Path) : Bool :=
  p.root == q.root && q.parts.isPrefixOf p.parts && q.parts.length < p.parts.length

/-- the ending of a name from its last dot on; a dot at the start or the end of the name does not count -/
def suffix (p : Path) : String :=
  let reversed := p.name.toList.reverse
  let ending := reversed.takeWhile (· != '.')
  match reversed.drop ending.length with
  | '.' :: _ :: _ => if ending.isEmpty then "" else .ofList ('.' :: ending.reverse)
  | _ => ""

/-- the ending of a name in lower case -/
def kind (p : Path) : String :=
  .ofList (Text.lower p.suffix.toList)

end Path

end YangDesign.Command
