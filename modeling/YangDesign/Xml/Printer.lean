/-
Elements as they are written, on indented lines or on one line.

The names of an element hold their prefixes, its attributes stand in order, and its text comes before its first child. An
element without text and children is closed in its start tag. Indentation sets each child on a line of its own; an
element with text is kept together.
-/

namespace YangDesign.Xml

/-- an element -/
structure Element where
  tag : String
  attributes : List (String × String)
  text : Option String
  children : List Element
  deriving Repr

/-- one character of text -/
def escapeText (c : Char) : List Char :=
  if c = '&' then "&amp;".toList
  else if c = '<' then "&lt;".toList
  else if c = '>' then "&gt;".toList
  else if c = '\r' then "&#13;".toList
  else [c]

/-- one character of an attribute value -/
def escapeAttribute (c : Char) : List Char :=
  if c = '\x22' then "&quot;".toList
  else if c = '\t' then "&#9;".toList
  else if c = '\n' then "&#10;".toList
  else escapeText c

/-- a text with every character escaped by a function -/
def escapeWith (f : Char → List Char) (s : String) : String :=
  .ofList (s.toList.flatMap f)

/-- an attribute with the blank before it -/
def attributeText (a : String × String) : String :=
  " " ++ a.1 ++ "=\"" ++ escapeWith escapeAttribute a.2 ++ "\""

/-- a start tag without its end -/
def openTag (e : Element) : String :=
  "<" ++ e.tag ++ String.join (e.attributes.map attributeText)

/-- line break and indentation, of sixty blanks at most -/
def indentation (pretty : Bool) (depth : Nat) : String :=
  if pretty then "\n" ++ .ofList (List.replicate (min 60 (2 * depth)) ' ') else ""

mutual

/-- an element at a depth -/
def Element.render (pretty : Bool) (depth : Nat) : Element → String
  | ⟨tag, attributes, text, children⟩ =>
    let start := openTag ⟨tag, attributes, text, children⟩
    match text, children with
    | none, [] => start ++ "/>"
    | none, c :: cs =>
      start ++ ">" ++ Element.renderAll pretty (depth + 1) (c :: cs) ++ indentation pretty depth ++ "</" ++ tag ++ ">"
    | some s, cs =>
      start ++ ">" ++ escapeWith escapeText s ++ Element.renderAll false (depth + 1) cs ++ "</" ++ tag ++ ">"

/-- elements side by side at a depth -/
def Element.renderAll (pretty : Bool) (depth : Nat) : List Element → String
  | [] => ""
  | e :: es => indentation pretty depth ++ e.render pretty depth ++ Element.renderAll pretty depth es

end

/-- a document with the element as its root -/
def render (pretty : Bool) (root : Element) : String :=
  "<?xml version='1.0' encoding='utf-8'?>\n" ++ root.render pretty 0 ++ (if pretty then "\n" else "")

end YangDesign.Xml
