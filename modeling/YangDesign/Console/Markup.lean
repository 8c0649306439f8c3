/-
Marked-up text: `[style]` opens a style, `[/style]` and `[/]` close one, and a backslash before a bracket keeps the bracket
as text.

A console without colours shows the text alone (`plain`). What it refuses is a closing tag for a style that is not open, or
for a handler whose arguments cannot be read.
`escape` writes any text so that none of it reads as a tag.
-/
import YangDesign.Console.Emoji
import YangDesign.Console.Handler
import YangDesign.Console.Style
import YangDesign.Text.Quoted

namespace YangDesign.Console

/-- a run of text, or a bracket that may be a tag, with the number of backslashes before it -/
inductive Segment where
  | run (text : List Char)
  | bracket (backslashes : Nat) (body : List Char)
  deriving DecidableEq, Repr

/-- characters a tag can start with -/
def startsTag (c : Char) : Bool :=
  ('a' ≤ c && c ≤ 'z') || c = '#' || c = '/' || c = '@'

/-- the inside of a tag whose opening bracket is passed -/
def tagBody? (cs : List Char) : Option (List Char) :=
  let body := cs.takeWhile fun c => c != ']' && c != '['
  match body, cs.drop body.length with
  | c :: _, ']' :: _ => if startsTag c then some body else none
  | _, _ => none

/-- a run of text, unless it is empty -/
def runOf (reversed : List Char) : List Segment :=
  if reversed.isEmpty then [] else [.run reversed.reverse]

/-- cuts `cs` into segments, where `reversed` and then some backslashes were read before -/
def segmentsFrom (reversed : List Char) (backslashes : Nat) : List Char → List Segment
  | [] => runOf (List.replicate backslashes '\\' ++ reversed)
  | c :: cs =>
    if c = '\\' then segmentsFrom reversed (backslashes + 1) cs
    else
      match if c = '[' then tagBody? cs else none with
      | some body =>
        runOf reversed ++ .bracket backslashes body :: segmentsFrom [] 0 (cs.drop (body.length + 1))
      | none => segmentsFrom (c :: (List.replicate backslashes '\\' ++ reversed)) 0 cs
termination_by cs => cs.length
decreasing_by all_goals simp; try omega

/-- the segments of a text -/
def segments (s : String) : List Segment :=
  segmentsFrom [] 0 s.toList

/-- a bracket written so that it is text -/
def escapeSegment : Segment → List Char
  | .run text => text
  | .bracket backslashes body => List.replicate (2 * backslashes + 1) '\\' ++ '[' :: (body ++ [']'])

/-- a text of which nothing reads as a tag; a single backslash at the end is doubled -/
def escape (s : String) : String :=
  let cs := (segments s).flatMap escapeSegment
  match cs.reverse with
  | '\\' :: '\\' :: _ => .ofList cs
  | '\\' :: _ => .ofList (cs ++ ['\\'])
  | _ => .ofList cs

/-- why marked-up text cannot be shown: a closing tag, and where it stands, the arguments of a handler, or a colour without a
component -/
inductive MarkupFault where
  | nothingToClose (position : Nat)
  | notOpen (tag : String) (position : Nat)
  | arguments (text : String)
  | colourComponent
  deriving DecidableEq, Repr

/-- wording of a fault -/
def MarkupFault.message : MarkupFault → String
  | .nothingToClose position => "closing tag '[/]' at position " ++ toString position ++ " has nothing to close"
  | .notOpen tag position =>
    "closing tag '[" ++ tag ++ "]' at position " ++ toString position ++ " doesn't match any open tag"
  | .arguments text => "error parsing " ++ Text.quoted text
  | .colourComponent => "invalid literal for int() with base 10: ''"

/-- characters that a console does not show: bell, backspace, vertical tab, form feed and carriage return -/
def isControl (c : Char) : Bool :=
  c.toNat ∈ [7, 8, 11, 12, 13]

/-- text without the characters that are not shown -/
def shown (s : String) : String :=
  .ofList (s.toList.filter (!isControl ·))

/-- backslashes before brackets that are no tags dropped -/
def openBrackets : List Char → List Char
  | '\\' :: '[' :: cs => '[' :: openBrackets cs
  | c :: cs => c :: openBrackets cs
  | [] => []

/-- a tag that is open: its style or handler, and the text after its equals sign -/
structure OpenTag where
  style : String
  parameters : List Char
  deriving DecidableEq, Repr

/-- whether a tag can be closed -/
def OpenTag.isReadable (t : OpenTag) : Bool :=
  !t.style.startsWith "@" || acceptsHandler t.parameters

/-- the open tags after a tag is closed -/
def close (t : OpenTag) (others : List OpenTag) : Except MarkupFault (List OpenTag) :=
  if t.isReadable then .ok others else .error (.arguments (.ofList t.parameters))

/-- the open tags after a tag at a position, the innermost first -/
def applyTag (opened : List OpenTag) (position : Nat) (body : List Char) : Except MarkupFault (List OpenTag) :=
  match body.takeWhile (· != '=') with
  | '/' :: name =>
    let name := Text.trimBlank name
    if name.isEmpty then
      match opened with
      | t :: outer => close t outer
      | [] => .error (.nothingToClose position)
    else
      match styleName name with
      | none => .error .colourComponent
      | some style =>
        match opened.find? (·.style == style) with
        | some t => close t (opened.eraseP (·.style == style))
        | none => .error (.notOpen (.ofList body) position)
  | name =>
    match styleName name with
    | none => .error .colourComponent
    | some style => .ok (⟨style, body.drop (name.length + 1)⟩ :: opened)

/-- the text of segments from a position on, inside some open tags -/
def textUnder (opened : List OpenTag) (position : Nat) : List Segment → Except MarkupFault (List Char)
  | [] => .ok []
  | .run text :: ss => do
    return placePictures (openBrackets text) ++ (← textUnder opened (position + text.length) ss)
  | .bracket backslashes body :: ss => do
    let before := List.replicate (backslashes / 2) '\\'
    let next := position + backslashes + body.length + 2
    if backslashes % 2 = 1 then
      return before ++ placePictures ('[' :: (body ++ [']'])) ++ (← textUnder opened next ss)
    else return before ++ (← textUnder (← applyTag opened (position + backslashes) body) next ss)

/-- the text of a marked-up text -/
def plain (s : String) : Except MarkupFault String :=
  (textUnder [] 0 (segments s)).map fun cs => shown (.ofList cs)

end YangDesign.Console
