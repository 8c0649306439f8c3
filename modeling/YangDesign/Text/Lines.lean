/-
Lines of a text, ended by line feeds, or by any of the characters that end a line in some script or protocol.
-/

namespace YangDesign.Text

/-- every line end as a line feed -/
def unifyLines : List Char → List Char
  | '\r' :: '\n' :: cs => '\n' :: unifyLines cs
  | '\r' :: cs => '\n' :: unifyLines cs
  | c :: cs => c :: unifyLines cs
  | [] => []

/-- the parts of a text between characters of a class, at least one -/
def splitWhere (p : Char → Bool) : List Char → List (List Char)
  | [] => [[]]
  | c :: cs =>
    if p c then [] :: splitWhere p cs
    else match splitWhere p cs with
      | part :: parts => (c :: part) :: parts
      | [] => [[c]]

/-- the parts of a text between occurrences of a character, at least one -/
def splitAtEach (mark : Char) (cs : List Char) : List (List Char) :=
  splitWhere (· == mark) cs

/-- the lines of a text, at least one -/
def linesOf (cs : List Char) : List (List Char) :=
  splitAtEach '\n' cs

/-- line feed, tabulation and feed marks, carriage return, separators of files, groups and records, next line, and the
separators of lines and paragraphs -/
def endsLine (c : Char) : Bool :=
  let n := c.toNat
  (10 ≤ n && n ≤ 13) || (28 ≤ n && n ≤ 30) || n == 0x85 || n == 0x2028 || n == 0x2029

/-- the parts of a text between characters that end a line -/
def anyLinesOf (cs : List Char) : List (List Char) :=
  splitWhere endsLine cs

end YangDesign.Text
