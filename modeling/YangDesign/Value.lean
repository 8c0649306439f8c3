/-
Values of a document without a schema: what a YAML or JSON file holds, and what a leaf of instance data decodes to.

A list or map may hold itself. It is a `knot` then, and the places inside where it comes again have its name; `Value.head`
unties it by one turn, so that its parts can be looked at.

`Value.literal` writes a value on one line with its kind still visible, for reports; `Value.display` shows a text as it is and
anything else by its literal. `Value.sameKey` is the equality of mapping keys, under which numbers of equal value agree
whatever their kind.
-/
import YangDesign.Number.Decimal
import YangDesign.Number.Shortest
import YangDesign.Text.Coded
import YangDesign.Time.Calendar

namespace YangDesign

open Number Text Time

/-- a value; a `tuple` has a fixed number of items, a `map` keeps its members in order, and a `broken` text is one that holds
halves of surrogate pairs -/
inductive Value where
  | null
  | bool (b : Bool)
  | int (i : Int)
  | float (x : Binary64)
  | decimal (d : Decimal)
  | text (s : String)
  | broken (codes : List Nat)
  | list (xs : List Value)
  | tuple (xs : List Value)
  | map (ps : List (Value × Value))
  | set (xs : List Value)
  | date (d : Date)
  | stamp (t : Stamp)
  | bytes (bs : List UInt8)
  | knot (name : Nat) (whole : Value)
  | again (name : Nat)
  deriving Repr

namespace Value

instance : Inhabited Value := ⟨.null⟩

/-- name of the kind of a value -/
def kindName : Value → String
  | .null => "NoneType"
  | .bool _ => "bool"
  | .int _ => "int"
  | .float _ => "float"
  | .decimal _ => "Decimal"
  | .text _ | .broken _ => "str"
  | .list _ => "list"
  | .tuple _ => "tuple"
  | .map _ => "dict"
  | .set _ => "set"
  | .date _ => "date"
  | .stamp _ => "datetime"
  | .bytes _ => "bytes"
  | .knot _ v => kindName v
  | .again _ => "object"

/-- the value of a text -/
def ofCoded : Coded → Value
  | .text s => .text s
  | .broken codes => .broken codes

/-! ## Values that hold themselves -/

mutual

/-- the value with another one in the places of a name -/
def tie (name : Nat) (by_ : Value) : Value → Value
  | .again n => if n = name then by_ else .again n
  | .knot n v => if n = name then .knot n v else .knot n (tie name by_ v)
  | .list xs => .list (tieAll name by_ xs)
  | .tuple xs => .tuple (tieAll name by_ xs)
  | .map ps => .map (tieMembers name by_ ps)
  | v => v

/-- each value with another one in the places of a name -/
def tieAll (name : Nat) (by_ : Value) : List Value → List Value
  | [] => []
  | x :: xs => tie name by_ x :: tieAll name by_ xs

/-- a member with its value changed; keys hold no places -/
def tieMember (name : Nat) (by_ : Value) : Value × Value → Value × Value
  | (k, v) => (k, tie name by_ v)

/-- each member with its value changed -/
def tieMembers (name : Nat) (by_ : Value) : List (Value × Value) → List (Value × Value)
  | [] => []
  | p :: ps => tieMember name by_ p :: tieMembers name by_ ps

end

/-- the value with its outermost part in sight -/
def head : Value → Value
  | .knot n v => tie n (.knot n v) v
  | v => v

/-- the name of a value that holds itself -/
def name? : Value → Option Nat
  | .knot n _ => some n
  | _ => none

/-! ## Literals -/

/-- a text joined from parts with a comma and a blank between them -/
def commaSeparated (parts : List String) : String :=
  ", ".intercalate parts

/-- a distance from UTC as a literal -/
def offsetLiteral (o : Int) : String :=
  if o = 0 then "datetime.timezone.utc"
  else if 0 ≤ o then "datetime.timezone(datetime.timedelta(seconds=" ++ toString o ++ "))"
  else "datetime.timezone(datetime.timedelta(days=-1, seconds=" ++ toString (o + 86400) ++ "))"

/-- a point in time as a literal: seconds and microseconds only if they are not zero -/
def stampLiteral (t : Stamp) : String :=
  let clock :=
    if t.microsecond ≠ 0 then [t.second, t.microsecond]
    else if t.second ≠ 0 then [t.second]
    else []
  let parts := [t.date.year, t.date.month, t.date.day, t.hour, t.minute] ++ clock
  let zone := match t.offset with
    | some o => ["tzinfo=" ++ offsetLiteral o]
    | none => []
  "datetime.datetime(" ++ commaSeparated (parts.map toString ++ zone) ++ ")"

/-- one byte of a literal -/
def escapeByte (mark : Char) (b : UInt8) : List Char :=
  let c := Char.ofNat b.toNat
  if c = mark || c = '\\' then ['\\', c]
  else if c = '\n' then ['\\', 'n']
  else if c = '\r' then ['\\', 'r']
  else if c = '\t' then ['\\', 't']
  else if 32 ≤ b.toNat && b.toNat < 127 then [c]
  else '\\' :: 'x' :: (hex 2 b.toNat).toList

/-- bytes as a quoted literal with the letter b before it -/
def bytesLiteral (bs : List UInt8) : String :=
  let mark := quoteMark (bs.map fun b => Char.ofNat b.toNat)
  .ofList ('b' :: mark :: (bs.flatMap (escapeByte mark) ++ [mark]))

/-- what stands for a value inside of itself -/
def ellipsis : Value → String
  | .map _ => "\x7b...\x7d"
  | _ => "[...]"

mutual

/-- a value on one line inside of values that hold themselves -/
def literalIn (around : List (Nat × String)) : Value → String
  | .null => "None"
  | .bool true => "True"
  | .bool false => "False"
  | .int i => toString i
  | .float x => x.text
  | .decimal d => "Decimal('" ++ d.scientific ++ "')"
  | .text s => quoted s
  | .broken codes => quotedCodes codes
  | .list xs => "[" ++ commaSeparated (literals around xs) ++ "]"
  | .tuple [x] => "(" ++ literalIn around x ++ ",)"
  | .tuple xs => "(" ++ commaSeparated (literals around xs) ++ ")"
  | .map ps => "\x7b" ++ commaSeparated (memberLiterals around ps) ++ "\x7d"
  | .set [] => "set()"
  | .set xs => "\x7b" ++ commaSeparated (literals around xs) ++ "\x7d"
  | .date d =>
    "datetime.date(" ++ commaSeparated [toString d.year, toString d.month, toString d.day] ++ ")"
  | .stamp t => stampLiteral t
  | .bytes bs => bytesLiteral bs
  | .knot n v =>
    match around.lookup n with
    | some mark => mark
    | none => literalIn ((n, v.ellipsis) :: around) v
  | .again n => (around.lookup n).getD "..."

/-- the literal of each value -/
def literals (around : List (Nat × String)) : List Value → List String
  | [] => []
  | x :: xs => literalIn around x :: literals around xs

/-- a key and a value with a colon between them -/
def memberLiteral (around : List (Nat × String)) : Value × Value → String
  | (k, v) => literalIn around k ++ ": " ++ literalIn around v

/-- the literal of each member -/
def memberLiterals (around : List (Nat × String)) : List (Value × Value) → List String
  | [] => []
  | p :: ps => memberLiteral around p :: memberLiterals around ps

end

/-- a value on one line with its kind visible -/
def literal (v : Value) : String :=
  literalIn [] v

/-- why some part of a value cannot be written: an integer has too many digits, a value holds itself, or a set has no order -/
inductive Flaw where
  | oversized
  | endless
  | unordered
  deriving DecidableEq, Repr

mutual

/-- the parts of a value that cannot be written -/
def flaws : Value → List Flaw
  | .int i => if Nat.pow 10 maxIntegerDigits ≤ i.natAbs then [.oversized] else []
  | .list xs => allFlaws xs
  | .tuple xs => allFlaws xs
  | .set xs => .unordered :: allFlaws xs
  | .map ps => memberFlaws ps
  | .knot _ v => .endless :: flaws v
  | _ => []

/-- the parts of some values that cannot be written -/
def allFlaws : List Value → List Flaw
  | [] => []
  | x :: xs => flaws x ++ allFlaws xs

/-- the parts of a member that cannot be written -/
def flawsOfMember : Value × Value → List Flaw
  | (k, v) => flaws k ++ flaws v

/-- the parts of some members that cannot be written -/
def memberFlaws : List (Value × Value) → List Flaw
  | [] => []
  | p :: ps => flawsOfMember p ++ memberFlaws ps

end

/-- whether a value holds an integer that has too many digits to be written -/
def isOversized (v : Value) : Bool :=
  v.flaws.contains .oversized

/-- a value for display: a text as it is, dates in the form of ISO 8601, anything else by its literal -/
def display : Value → String
  | .text s => s
  | .broken codes => .ofList (joinHalves codes)
  | .decimal d => d.scientific
  | .date d => d.text
  | .stamp t => t.text.map fun c => if c = 'T' then ' ' else c
  | v => v.literal

/-- the number a value stands for, truth values included -/
def number? : Value → Option Int
  | .bool b => some (if b then 1 else 0)
  | .int i => some i
  | .float x => x.toInt?
  | _ => none

/-- equality of mapping keys -/
def sameKey (a b : Value) : Bool :=
  match a, b with
  | .null, .null => true
  | .text s, .text s' => s == s'
  | .broken cs, .broken cs' => cs == cs'
  | .bytes bs, .bytes bs' => bs == bs'
  | .date d, .date d' => d == d'
  | .stamp t, .stamp t' =>
    t.offset.isSome == t'.offset.isSome && t.seconds == t'.seconds && t.microsecond == t'.microsecond
  | .float (.finite s m e), .float (.finite s' m' e') => m == m' && e == e' && (s == s' || m == 0)
  | .float (.infinity s), .float (.infinity s') => s == s'
  | a, b =>
    match a.number?, b.number? with
    | some i, some j => i == j
    | _, _ => false

/-- the member of a map under a text key -/
def member? (key : String) : List (Value × Value) → Option Value
  | [] => none
  | (.text k, v) :: ps => if k = key then some v else member? key ps
  | _ :: ps => member? key ps

end Value

end YangDesign
