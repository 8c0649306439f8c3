/-
Tags, and the tag that a plain scalar gets by its text: null, truth value, integer, float, time, merge key or text.
-/
import YangDesign.Number.Literal
import YangDesign.Text.Coded
import YangDesign.Text.Lines

namespace YangDesign.Yaml

/-- the tags that values are made of, and all others -/
inductive Tag where
  | null
  | truth
  | integer
  | number
  | text
  | binary
  | time
  | merge
  | value
  | sequence
  | mapping
  | orderedMapping
  | pairs
  | set
  | other
  deriving DecidableEq, Repr

/-- what the URI of a standard tag starts with -/
def standardTags : String :=
  "tag:yaml.org,2002:"

/-- standard tags by name -/
def tagNames : List (String × Tag) := [
  ("null", .null), ("bool", .truth), ("int", .integer), ("float", .number), ("str", .text), ("binary", .binary),
  ("timestamp", .time), ("merge", .merge), ("value", .value), ("seq", .sequence), ("map", .mapping), ("omap", .orderedMapping),
  ("pairs", .pairs), ("set", .set)]

/-- the tag of a URI -/
def Tag.ofUri (uri : String) : Tag :=
  match tagNames.find? fun (name, _) => standardTags ++ name == uri with
  | some (_, tag) => tag
  | none => .other

/-! ## Forms of plain scalars -/

/-- texts of null -/
def nullTexts : List String :=
  ["", "~", "null", "Null", "NULL"]

/-- texts of true -/
def trueTexts : List String :=
  ["yes", "Yes", "YES", "true", "True", "TRUE", "on", "On", "ON"]

/-- texts of false -/
def falseTexts : List String :=
  ["no", "No", "NO", "false", "False", "FALSE", "off", "Off", "OFF"]

/-- digits of a base and underscores -/
def isDigits (base : Nat) (cs : List Char) : Bool :=
  cs.all fun c => c = '_' || (Number.asciiDigit? base c).isSome

/-- a decimal digit and then digits and underscores -/
def isDigitsFrom (cs : List Char) : Bool :=
  match cs with
  | c :: cs => c.isDigit && isDigits 10 cs
  | [] => false

/-- parts of a text between colons -/
def colonParts (cs : List Char) : List (List Char) :=
  Text.splitAtEach ':' cs

/-- one or two digits below sixty -/
def isSixtieth : List Char → Bool
  | [b] => b.isDigit
  | [a, b] => '0' ≤ a && a ≤ '5' && b.isDigit
  | _ => false

/-- an integer without its sign: binary, octal, decimal, hexadecimal or in base sixty -/
def isUnsignedInteger (cs : List Char) : Bool :=
  match cs with
  | ['0'] => true
  | '0' :: 'b' :: ds => !ds.isEmpty && isDigits 2 ds
  | '0' :: 'x' :: ds => !ds.isEmpty && isDigits 16 ds
  | '0' :: ds => isDigits 8 ds
  | cs =>
    match colonParts cs with
    | whole :: sixtieths => isDigitsFrom whole && sixtieths.all isSixtieth
    | [] => false

/-- an integer -/
def isInteger (cs : List Char) : Bool :=
  isUnsignedInteger (Number.takeSign cs).2

/-- nothing, or an exponent with a sign -/
def isExponent : List Char → Bool
  | [] => true
  | e :: sign :: ds => (e = 'e' || e = 'E') && (sign = '+' || sign = '-') && !ds.isEmpty && ds.all Char.isDigit
  | _ => false

/-- digits and underscores, and then nothing or an exponent with a sign -/
def isFraction (cs : List Char) : Bool :=
  isExponent (cs.dropWhile fun c => c.isDigit || c = '_')

/-- a float without its sign: with a point, or in base sixty with a point in its last part -/
def isUnsignedFloat (cs : List Char) : Bool :=
  let whole := cs.takeWhile (· != '.')
  match cs.dropWhile (· != '.') with
  | _ :: fraction =>
    match colonParts whole with
    | [digits] => isDigitsFrom digits && isFraction fraction
    | digits :: sixtieths => isDigitsFrom digits && sixtieths.all isSixtieth && isDigits 10 fraction
    | [] => false
  | [] => false

/-- a float -/
def isFloat (cs : List Char) : Bool :=
  isUnsignedFloat (Number.takeSign cs).2 ||
    [".inf", ".Inf", ".INF"].contains (String.ofList (Number.takeSign cs).2) ||
    [".nan", ".NaN", ".NAN"].contains (String.ofList cs) ||
    match cs with
    | '.' :: d :: cs => d.isDigit && isFraction (d :: cs)
    | _ => false

/-! ## Times -/

/-- the parts of a time of day: a fraction of a second and a distance from UTC in seconds if there are any -/
structure ClockParts where
  hour : Nat
  minute : Nat
  second : Nat
  fraction : List Nat
  offset : Option Int
  deriving DecidableEq, Repr

/-- the parts of a date or a point in time; `strict` if month and day have two digits -/
structure TimeParts where
  year : Nat
  month : Nat
  day : Nat
  strict : Bool
  clock : Option ClockParts
  deriving DecidableEq, Repr

/-- at least `least` and at most `most` digits, and the rest -/
def takeDigits? (least most : Nat) (cs : List Char) : Option (List Nat × List Char) :=
  let (ds, _) := Number.spanDigits (cs.take most)
  if least ≤ ds.length then some (ds, cs.drop ds.length) else none

/-- the rest after a character -/
def after? (c : Char) : List Char → Option (List Char)
  | d :: cs => if d = c then some cs else none
  | [] => none

/-- a distance from UTC after blanks, which has to end the text; none for no distance at all -/
def readOffset? (cs : List Char) : Option (Option Int) :=
  match cs.dropWhile fun c => c = ' ' || c = '\t' with
  | [] => if cs.isEmpty then some none else none
  | ['Z'] => some (some 0)
  | sign :: cs =>
    if sign = '+' || sign = '-' then do
      let (hours, cs) ← takeDigits? 1 2 cs
      let minutes ← match cs with
        | [] => some []
        | cs => do
          let cs ← after? ':' cs
          let (minutes, cs) ← takeDigits? 2 2 cs
          guard cs.isEmpty
          pure minutes
      let seconds := (Number.ofDigits 10 hours * 60 + Number.ofDigits 10 minutes) * 60
      return some (Number.signed (sign = '-') seconds)
    else none

/-- a time of day, which has to end the text -/
def readClock? (cs : List Char) : Option ClockParts := do
  let (hour, cs) ← takeDigits? 1 2 cs
  let cs ← after? ':' cs
  let (minute, cs) ← takeDigits? 2 2 cs
  let cs ← after? ':' cs
  let (second, cs) ← takeDigits? 2 2 cs
  let (fraction, cs) := match cs with
    | '.' :: cs => Number.spanDigits cs
    | cs => ([], cs)
  let offset ← readOffset? cs
  return ⟨Number.ofDigits 10 hour, Number.ofDigits 10 minute, Number.ofDigits 10 second, fraction, offset⟩

/-- a date, or a date and a time of day after a letter T or blanks -/
def readTime? (cs : List Char) : Option TimeParts := do
  let (year, cs) ← takeDigits? 4 4 cs
  let cs ← after? '-' cs
  let (month, cs) ← takeDigits? 1 2 cs
  let cs ← after? '-' cs
  let (day, cs) ← takeDigits? 1 2 cs
  let date := TimeParts.mk (Number.ofDigits 10 year) (Number.ofDigits 10 month) (Number.ofDigits 10 day)
    (month.length == 2 && day.length == 2)
  match cs with
  | [] => return date none
  | c :: cs =>
    if c = 'T' || c = 't' then return date (← readClock? cs)
    else if c = ' ' || c = '\t' then
      return date (← readClock? (cs.dropWhile fun c => c = ' ' || c = '\t'))
    else none

/-- whether a plain scalar is a time: a date alone needs two digits for month and day -/
def isTime (cs : List Char) : Bool :=
  match readTime? cs with
  | some t => t.strict || t.clock.isSome
  | none => false

/-- a text without the line feed that may end it; a line feed alone stays -/
def withoutLastBreak (cs : List Char) : List Char :=
  if cs.length > 1 && cs.getLast? == some '\n' then cs.dropLast else cs

/-- the tag that a text has as a plain scalar -/
def Tag.ofText (s : String) : Tag :=
  let cs := withoutLastBreak s.toList
  let s := String.ofList cs
  if nullTexts.contains s then .null
  else if trueTexts.contains s || falseTexts.contains s then .truth
  else if isFloat cs then .number
  else if isInteger cs then .integer
  else if s = "<<" then .merge
  else if isTime cs then .time
  else if s = "=" then .value
  else if s = "!" || s = "&" || s = "*" then .other
  else .text

/-- the tag of a plain scalar: a text that holds halves of pairs is only a text -/
def Tag.ofPlain : Text.Coded → Tag
  | .text s => .ofText s
  | .broken _ => .text

end YangDesign.Yaml
