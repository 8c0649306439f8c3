/-
Quoted literals: a text between quotation marks, on one line and printable.

The apostrophe encloses a text unless the text holds an apostrophe and no double quote. The enclosing mark and the backslash
are escaped by a backslash, line feed, carriage return and tab have letters, and every other unprintable character is
written by its code point in the shortest of the forms `\xNN`, `\uNNNN` and `\UNNNNNNNN`.
-/
import YangDesign.Text.Numeral
import YangDesign.Text.Printable

namespace YangDesign.Text

/-- the mark that encloses a text -/
def quoteMark (cs : List Char) : Char :=
  if cs.contains '\x27' && !cs.contains '\x22' then '\x22' else '\x27'

/-- one character inside the marks -/
def escape (mark c : Char) : List Char :=
  if c = mark || c = '\\' then ['\\', c]
  else if c = '\n' then ['\\', 'n']
  else if c = '\r' then ['\\', 'r']
  else if c = '\t' then ['\\', 't']
  else if isPrintable c then [c]
  else if c.toNat < 0x100 then '\\' :: 'x' :: (hex 2 c.toNat).toList
  else if c.toNat < 0x10000 then '\\' :: 'u' :: (hex 4 c.toNat).toList
  else '\\' :: 'U' :: (hex 8 c.toNat).toList

/-- the quoted literal of a text -/
def quoted (s : String) : String :=
  let mark := quoteMark s.toList
  .ofList (mark :: (s.toList.flatMap (escape mark) ++ [mark]))

end YangDesign.Text
