/-
Texts by their code points. The two halves of a surrogate pair are code points that no character has: a text may hold them one
by one, and then it is not the text with the character that the pair stands for, although both are shown alike.
-/
import YangDesign.Text.Quoted

namespace YangDesign.Text

/-- the character of a code point; the half of a pair is none -/
def charOf? (n : Nat) : Option Char :=
  if n.isValidChar then some (.ofNat n) else none

/-- a text, or the code points of one that holds halves of pairs -/
inductive Coded where
  | text (s : String)
  | broken (codes : List Nat)
  deriving DecidableEq, Repr

/-- the text of code points -/
def Coded.ofCodes (codes : List Nat) : Coded :=
  match codes.mapM charOf? with
  | some cs => .text (.ofList cs)
  | none => .broken codes

/-- the code points of a text -/
def Coded.codes : Coded → List Nat
  | .text s => s.toList.map Char.toNat
  | .broken codes => codes

/-- whether a code point is the first half of a pair -/
def isFirstHalf (n : Nat) : Bool :=
  0xD800 ≤ n && n < 0xDC00

/-- whether a code point is the second half of a pair -/
def isSecondHalf (n : Nat) : Bool :=
  0xDC00 ≤ n && n < 0xE000

/-- code points for display: halves that stand together make a character, and a half alone is replaced -/
def joinHalves : List Nat → List Char
  | [] => []
  | [n] => [(charOf? n).getD '\uFFFD']
  | n :: m :: ns =>
    if isFirstHalf n && isSecondHalf m then
      Char.ofNat (0x10000 + (n - 0xD800) * 0x400 + (m - 0xDC00)) :: joinHalves ns
    else (charOf? n).getD '\uFFFD' :: joinHalves (m :: ns)

/-- the quoted literal of code points, with every half escaped -/
def quotedCodes (codes : List Nat) : String :=
  let mark := quoteMark (codes.filterMap charOf?)
  let part (n : Nat) := match charOf? n with
    | some c => escape mark c
    | none => '\\' :: 'u' :: (hex 4 n).toList
  .ofList (mark :: (codes.flatMap part ++ [mark]))

/-- the quoted literal of a text -/
def Coded.quoted : Coded → String
  | .text s => Text.quoted s
  | .broken codes => quotedCodes codes

end YangDesign.Text
