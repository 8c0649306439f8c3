/-
Handlers: a tag `[@event=name(arguments)]` names what is called when its text is chosen.

`acceptsHandler` tells whether the arguments are literals: numbers, texts, `True`, `False`, `None`, dots, and tuples, sets
and tables of them. The members of a set and the keys of a table have to be values that do not change.
-/
import YangDesign.Console.Lexeme
import YangDesign.Text.Letter

namespace YangDesign.Console

open Text

/-- what a literal is good for: a number may get a sign, a number with or without a sign may be the first part of a sum, and a
table or set may not be a member of a set -/
inductive LiteralKind where
  | number (imaginary : Bool)
  | signed (imaginary : Bool)
  | fixed
  | changing
  deriving DecidableEq, Repr

/-- literals between brackets: the kind of each and whether a value belongs to it, and whether there is a comma -/
structure Members where
  kinds : List (LiteralKind × Bool)
  hasComma : Bool
  deriving DecidableEq, Repr

/-- kind of literals between round brackets -/
def Members.tuple (ms : Members) : LiteralKind :=
  match ms with
  | ⟨[(k, _)], false⟩ => k
  | ms => if ms.kinds.any (·.1 = .changing) then .changing else .fixed

/-- kind of a set or a table, of which every member has a value or none -/
def Members.collection? (ms : Members) : Option LiteralKind :=
  let valued := ms.kinds.map (·.2)
  if ms.kinds.any (·.1 = .changing) || valued.contains true && valued.contains false then none else some .changing

/-- whether members end here -/
def endsMembers : List Lexeme → Bool
  | [] => true
  | l :: _ => l = .mark ')' || l = .mark '\x7d'

/-- whether a lexeme is a sign -/
def isSign (l : Lexeme) : Bool :=
  l = .mark '+' || l = .mark '-'

/-- a number with a sign -/
def LiteralKind.withSign? : LiteralKind → Option LiteralKind
  | .number imaginary => some (.signed imaginary)
  | _ => none

/-- whether a literal may be the first part of a sum -/
def LiteralKind.isReal (k : LiteralKind) : Bool :=
  k = .number false || k = .signed false

mutual

/-- a literal that starts without a sign, and what follows it -/
def unsignedLiteral : Nat → List Lexeme → Option (LiteralKind × List Lexeme)
  | 0, _ => none
  | _, .number imaginary :: ls => some (.number imaginary, ls)
  | _, .text bytes :: ls =>
    let rest := ls.dropWhile (· = .text bytes)
    if rest.head? == some (.text !bytes) then none else some (.fixed, rest)
  | _, .dots :: ls => some (.fixed, ls)
  | _, .word "set" :: .mark '(' :: .mark ')' :: ls => some (.changing, ls)
  | _, .word name :: ls => if ["True", "False", "None"].contains name then some (.fixed, ls) else none
  | fuel + 1, .mark '(' :: ls =>
    match members fuel ls with
    | some (ms, .mark ')' :: rest) => if ms.kinds.any (·.2) then none else some (ms.tuple, rest)
    | _ => none
  | fuel + 1, .mark '\x7b' :: ls =>
    match members fuel ls with
    | some (ms, .mark '\x7d' :: rest) => ms.collection?.map (·, rest)
    | _ => none
  | _, _ => none

/-- a literal, and what follows it: a number may have a sign, and an imaginary number may be added to a real one -/
def literal : Nat → List Lexeme → Option (LiteralKind × List Lexeme)
  | 0, _ => none
  | _, [] => none
  | fuel + 1, l :: ls => do
    let (k, rest) ←
      if isSign l then (unsignedLiteral fuel ls).bind fun (k, rest) => k.withSign?.map (·, rest)
      else unsignedLiteral fuel (l :: ls)
    match rest with
    | l :: ls =>
      if isSign l then
        match k.isReal, unsignedLiteral fuel ls with
        | true, some (.number true, rest) => return (.fixed, rest)
        | _, _ => none
      else return (k, rest)
    | [] => return (k, [])

/-- literals with commas between them up to a closing bracket, each with a value after a colon or none -/
def members : Nat → List Lexeme → Option (Members × List Lexeme)
  | 0, _ => none
  | fuel + 1, ls =>
    if endsMembers ls then some (⟨[], false⟩, ls)
    else do
      let (k, rest) ← literal fuel ls
      let (valued, rest) ← match rest with
        | .mark ':' :: rest => (literal fuel rest).map fun (_, rest) => (true, rest)
        | rest => some (false, rest)
      match rest with
      | .mark ',' :: rest => do
        let (ms, rest) ← members fuel rest
        return (⟨(k, valued) :: ms.kinds, true⟩, rest)
      | rest => return (⟨[(k, valued)], false⟩, rest)

end

/-- whether some characters are a literal -/
def isLiteral (cs : List Char) : Bool :=
  match lexemes cs with
  | none => false
  | some ls =>
    match members (4 * ls.length + 4) ls with
    | some (ms, []) => !ms.kinds.isEmpty && !ms.kinds.any (·.2)
    | _ => false

/-- the arguments of a handler; a name alone has none, and what is no name with arguments counts as arguments altogether -/
def handlerArguments? (cs : List Char) : Option (List Char) :=
  match cs.dropWhile fun c => isWordChar c || c = '_' || c = '.' with
  | [] => none
  | '(' :: rest => some (if rest.getLast? == some ')' && !rest.contains '\n' then '(' :: rest else cs)
  | _ => some cs

/-- whether the text after the equals sign of a handler's tag can be read; there may be none -/
def acceptsHandler (parameters : List Char) : Bool :=
  parameters.isEmpty || (handlerArguments? (trimBlank parameters)).all isLiteral

end YangDesign.Console
