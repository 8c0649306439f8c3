/-
Checking input all the way through: a check answers a result, or every fault it found in reading order.

Checks are combined with `<*>`, which collects the faults of both sides. A few inputs cannot be judged at all; they stop
the whole check (`Checked.stopped`).
-/
import YangDesign.Input.Fault
import YangDesign.Number.Whole

namespace YangDesign.Input

open Number Text

/-- why a check stops: a value that selects what to expect cannot be compared, or a time leaves the calendar -/
inductive Stop where
  | incomparable (kindName : String)
  | outsideCalendar
  deriving DecidableEq, Repr

/-- wording of a stop -/
def Stop.message : Stop → String
  | .incomparable kindName => "unhashable type: '" ++ kindName ++ "'"
  | .outsideCalendar => "date value out of range"

/-- outcome of a check -/
inductive Checked (α : Type) where
  | ok (a : α)
  | faulty (faults : List Fault)
  | stopped (reason : Stop)
  deriving Repr

namespace Checked

variable {α β : Type}

/-- the outcome with its result changed -/
def map (f : α → β) : Checked α → Checked β
  | .ok a => .ok (f a)
  | .faulty fs => .faulty fs
  | .stopped r => .stopped r

/-- both outcomes, with the faults of the first before those of the second -/
def both : Checked (α → β) → Checked α → Checked β
  | .ok f, .ok a => .ok (f a)
  | .stopped r, _ => .stopped r
  | _, .stopped r => .stopped r
  | .faulty fs, .faulty gs => .faulty (fs ++ gs)
  | .faulty fs, .ok _ => .faulty fs
  | .ok _, .faulty gs => .faulty gs

instance : Functor Checked where
  map := map

instance : Applicative Checked where
  pure := .ok
  seq f a := both f (a ())

/-- a single fault at this place -/
def fault (c : Cause) : Checked α :=
  .faulty [⟨[], c⟩]

/-- the outcome with its faults moved below some steps -/
def within (steps : List Step) : Checked α → Checked α
  | .faulty fs => .faulty (fs.map fun f => { f with location := steps ++ f.location })
  | c => c

/-- a further check of a result -/
def andThen (c : Checked α) (f : α → Checked β) : Checked β :=
  match c with
  | .ok a => f a
  | .faulty fs => .faulty fs
  | .stopped r => .stopped r

/-- refused if a condition holds -/
def refusedIf (condition : Bool) (cause : Cause) (a : α) : Checked α :=
  if condition then fault cause else .ok a

end Checked

open Checked

/-- a text as it is shown; bytes are taken as UTF-8 -/
def text : Value → Checked String
  | .text s => .ok s
  | .broken codes => .ok (.ofList (joinHalves codes))
  | .bytes bs =>
    match String.fromUTF8? ⟨bs.toArray⟩ with
    | some s => .ok s
    | none => fault .notUnicode
  | _ => fault .notText

/-- a text of which something is required, so that it must not hold halves of pairs -/
def wholeText : Value → Checked String
  | .broken _ => fault .notUnicode
  | v => text v

/-- a text of a required form -/
def textOf (form : Form) (v : Value) : Checked String :=
  (wholeText v).andThen fun s => refusedIf (!form.accepts s) (.pattern form) s

/-- a text that is not empty -/
def filledText (v : Value) : Checked String :=
  (wholeText v).andThen fun s => refusedIf s.isEmpty .emptyText s

/-- null or something else -/
def optional {α : Type} (check : Value → Checked α) : Value → Checked (Option α)
  | .null => .ok none
  | v => (check v).map some

/-- an integer from its text -/
def integerFrom (s : String) : Checked Int :=
  match readWhole s with
  | .value i => .ok i
  | .tooLong => fault .oversizedInteger
  | .unreadable => fault .unreadableInteger

/-- integers of 64 bits, which can be steps of a location -/
def isIndex (i : Int) : Bool :=
  -Int.pow 2 63 ≤ i && i < Int.pow 2 63

/-- a float that is taken for one beyond 64 bits, the least of them included -/
def isOversized (i : Int) : Bool :=
  i ≤ -Int.pow 2 63 || Int.pow 2 63 ≤ i

/-- an integer: a number without a fraction, a truth value, or a text; bytes are taken as UTF-8 -/
def integer : Value → Checked Int
  | .int i => .ok i
  | .bool b => .ok (if b then 1 else 0)
  | .float x =>
    match x.toInt? with
    | some i => refusedIf (isOversized i) .oversizedInteger i
    | none => fault (match x with
      | .finite .. => .fractionalInteger
      | _ => .infiniteInteger)
  | .text s => integerFrom s
  | .bytes bs => ((String.fromUTF8? ⟨bs.toArray⟩).map integerFrom).getD (fault .unreadableInteger)
  | .broken _ => fault .notUnicode
  | _ => fault .notInteger

/-- words for true -/
def trueWords : List String :=
  ["1", "on", "t", "true", "y", "yes"]

/-- words for false -/
def falseWords : List String :=
  ["0", "off", "f", "false", "n", "no"]

/-- a truth value from a word for it in any case -/
def booleanFrom (s : String) : Checked Bool :=
  let word := String.ofList (s.toList.map Char.toLower)
  if trueWords.contains word then .ok true
  else if falseWords.contains word then .ok false
  else fault .unreadableBoolean

/-- a truth value from a number: zero or one -/
def booleanOf (i : Int) : Checked Bool :=
  if i = 0 then .ok false
  else if i = 1 then .ok true
  else fault .unreadableBoolean

/-- a truth value: a boolean, zero or one, or a word; a number beyond 64 bits, or with a fraction, is no candidate for one -/
def boolean : Value → Checked Bool
  | .bool b => .ok b
  | .int i => if isIndex i then booleanOf i else fault .notBoolean
  | .float x =>
    match x.toInt? with
    | some i => if isOversized i then fault .notBoolean else booleanOf i
    | none => fault .notBoolean
  | .text s => booleanFrom s
  | .bytes bs => ((String.fromUTF8? ⟨bs.toArray⟩).map booleanFrom).getD (fault .unreadableBoolean)
  | .broken _ => fault .notUnicode
  | _ => fault .notBoolean

/-- every item, from an index on -/
def itemsFrom {α : Type} (check : Value → Checked α) : Nat → List Value → Checked (List α)
  | _, [] => .ok []
  | i, v :: vs => (· :: ·) <$> (check v).within [.item i] <*> itemsFrom check (i + 1) vs

/-- a list, a tuple or a set, with every item checked -/
def listOf {α : Type} (check : Value → Checked α) (v : Value) : Checked (List α) :=
  match v.head with
  | .list vs | .tuple vs | .set vs => itemsFrom check 0 vs
  | _ => fault .notList

/-! ## Objects -/

/-- members of an object -/
abbrev Members := List (Value × Value)

/-- an object; `expected` names what it should describe -/
def object {α : Type} (expected : String) (check : Members → Checked α) (v : Value) : Checked α :=
  match v.head with
  | .map ms => check ms
  | _ => fault (.notObject expected)

/-- a member that must be there -/
def required {α : Type} (name : String) (check : Value → Checked α) (ms : Members) : Checked α :=
  (match Value.member? name ms with
  | some v => check v
  | none => fault .missing).within [.member name]

/-- a member that may be left out -/
def defaulting {α : Type} (name : String) (default : α) (check : Value → Checked α) (ms : Members) : Checked α :=
  match Value.member? name ms with
  | some v => (check v).within [.member name]
  | none => .ok default

/-- the step to a member whose key is no text -/
def stepOfKey : Value → Step
  | .int i =>
    if isIndex i then .item i
    else .member (if (Value.int i).isOversized then "<unprintable int object>" else toString i)
  | .bool b => .item (if b then 1 else 0)
  | k => .member k.literal

/-- faults for every member that is not among the known ones -/
def unknownFaults (known : List String) : Members → List Fault
  | [] => []
  | (.text k, _) :: ms =>
    if known.contains k then unknownFaults known ms else ⟨[.member k], .unknownField⟩ :: unknownFaults known ms
  | (k, _) :: ms => ⟨[stepOfKey k], .keyNotText⟩ :: unknownFaults known ms

/-- whether a value is a text with halves of pairs -/
def isBroken : Value → Bool
  | .broken _ => true
  | _ => false

/-- a check of an object that has no members but the known ones; a key with halves of pairs outweighs all other faults -/
def closed {α : Type} (known : List String) (ms : Members) (c : Checked α) : Checked α :=
  if ms.any (isBroken ·.1) then
    match c with
    | .stopped r => .stopped r
    | _ => fault .notUnicode
  else match unknownFaults known ms with
    | [] => c
    | fs => c <* (.faulty fs : Checked Unit)

end YangDesign.Input
