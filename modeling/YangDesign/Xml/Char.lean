/-
Characters and names of XML 1.0.
-/
import YangDesign.Text.Letter

namespace YangDesign.Xml

/-- a character that an XML document may hold -/
def isChar (c : Char) : Bool :=
  let n := c.toNat
  n == 9 || n == 10 || n == 13 || (32 ≤ n && n ≤ 0xD7FF) || (0xE000 ≤ n && n ≤ 0xFFFD) || 0x10000 ≤ n

/-- code points that may start a name, the colon apart -/
def nameStartRanges : Text.Ranges := [
  (0x41, 0x5A), (0x5F, 0x5F), (0x61, 0x7A), (0xC0, 0xD6), (0xD8, 0xF6), (0xF8, 0x2FF), (0x370, 0x37D), (0x37F, 0x1FFF),
  (0x200C, 0x200D), (0x2070, 0x218F), (0x2C00, 0x2FEF), (0x3001, 0xD7FF), (0xF900, 0xFDCF), (0xFDF0, 0xFFFD),
  (0x10000, 0xEFFFF)]

/-- code points that may stand in a name after its start, besides those that may start it -/
def namePartRanges : Text.Ranges :=
  [(0x2D, 0x2E), (0x30, 0x39), (0xB7, 0xB7), (0x300, 0x36F), (0x203F, 0x2040)]

/-- first character of a name -/
def isNameStart (c : Char) : Bool :=
  nameStartRanges.has c

/-- further character of a name -/
def isNamePart (c : Char) : Bool :=
  nameStartRanges.has c || namePartRanges.has c

/-- first character of a name that may hold colons -/
def isColonNameStart (c : Char) : Bool :=
  isNameStart c || c = ':'

/-- further character of a name that may hold colons -/
def isColonNamePart (c : Char) : Bool :=
  isNamePart c || c = ':'

/-- a character of a public identifier -/
def isPublicChar (c : Char) : Bool :=
  c.isAlphanum || " \n\r-'()+,./:=?;!*#@$_%".toList.contains c

/-- a name without a colon -/
def isName : List Char → Bool
  | [] => false
  | c :: cs => isNameStart c && cs.all isNamePart

/-- white space between the parts of markup -/
def isSpace (c : Char) : Bool :=
  c = ' ' || c = '\n' || c = '\t' || c = '\r'

/-- a text of allowed characters only -/
def isText (s : String) : Bool :=
  s.toList.all isChar

end YangDesign.Xml
