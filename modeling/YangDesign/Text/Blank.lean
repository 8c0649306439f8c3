/-
Blank characters of all scripts, trimming, and the words of a text.

`words` cuts at every run of blanks and never yields an empty word.
-/

namespace YangDesign.Text

/-- white space of any script, the information separators included -/
def isBlank (c : Char) : Bool :=
  let n := c.toNat
  (9 ≤ n && n ≤ 13) || (28 ≤ n && n ≤ 32) || n == 0x85 || n == 0xA0 || n == 0x1680 || (0x2000 ≤ n && n ≤ 0x200A) ||
    n == 0x2028 || n == 0x2029 || n == 0x202F || n == 0x205F || n == 0x3000

/-- blanks at the end removed -/
def trimEnd (cs : List Char) : List Char :=
  (cs.reverse.dropWhile isBlank).reverse

/-- blanks at both ends removed -/
def trimBlank (cs : List Char) : List Char :=
  trimEnd (cs.dropWhile isBlank)

/-- blanks at both ends of a text removed -/
def trim (s : String) : String :=
  .ofList (trimBlank s.toList)

/-- blanks other than the information separators of ASCII -/
def isSpace (c : Char) : Bool :=
  isBlank c && !(28 ≤ c.toNat && c.toNat ≤ 31)

/-- blanks at both ends removed, but information separators kept -/
def trimSpace (cs : List Char) : List Char :=
  ((cs.dropWhile isSpace).reverse.dropWhile isSpace).reverse

/-- the words of `cs`, where `word` holds the letters of an unfinished word in reverse -/
def wordsFrom (word : List Char) : List Char → List String
  | [] => if word.isEmpty then [] else [.ofList word.reverse]
  | c :: cs =>
    if isBlank c then
      if word.isEmpty then wordsFrom [] cs else .ofList word.reverse :: wordsFrom [] cs
    else wordsFrom (c :: word) cs

/-- the maximal runs of non-blank characters -/
def words (s : String) : List String :=
  wordsFrom [] s.toList

/-- every white space of ASCII is blank -/
theorem isBlank_of_isWhitespace {c : Char} (h : c.isWhitespace) : isBlank c := by
  simp only [Char.isWhitespace, Bool.or_eq_true, decide_eq_true_eq] at h
  rcases h with ((rfl | rfl) | rfl) | rfl <;> decide

end YangDesign.Text
