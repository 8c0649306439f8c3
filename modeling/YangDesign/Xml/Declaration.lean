/-
The declaration at the head of an XML document: version, encoding, and whether the document stands alone.

A byte order mark settles the encoding, so that the declared one is not looked at. Without it the bytes of what follows are
read in the declared encoding.
-/
import YangDesign.Text.Lines
import YangDesign.Xml.Encoding
import YangDesign.Xml.Piece

namespace YangDesign.Xml

/-- one of the settings of a declaration, and the rest -/
def takeSetting? (key : String) (cs : List Char) : Option (List Char × List Char) := do
  let cs ← after? key.toList (← needSpace? cs)
  let ('=' :: cs) := skipSpace cs | none
  takeLiteral? (skipSpace cs)

/-- a version that is read: 1 and a minor number -/
def isVersion : List Char → Bool
  | '1' :: '.' :: ds => ds.all Char.isDigit
  | _ => false

/-- the name of an encoding -/
def isEncodingName : List Char → Bool
  | c :: cs => c.isAlpha && cs.all fun c => c.isAlphanum || c = '.' || c = '_' || c = '-'
  | [] => false

/-- the characters that the bytes of some text are in an encoding -/
def decode? (encoding cs : List Char) : Option (List Char) :=
  decodeBytes? (.ofList (encoding.map Char.toLower)) cs (String.ofList cs).toUTF8.toList

/-- what follows the encoding of a declaration, if it names one; `marked` tells of a byte order mark -/
def passEncoding? (marked : Bool) (cs : List Char) : Option (List Char) :=
  match takeSetting? "encoding" cs with
  | none => some cs
  | some (encoding, rest) => do
    guard (isEncodingName encoding)
    if marked then return rest else decode? encoding rest

/-- whether a declaration says that the document stands alone, and the rest -/
def takeStandalone? (cs : List Char) : Option (Bool × List Char) :=
  match takeSetting? "standalone" cs with
  | none => some (false, cs)
  | some (value, rest) => if value = "yes".toList then some (true, rest) else if value = "no".toList then some (false, rest) else none

/-- whether a document stands alone, and what follows its declaration -/
def takeDeclaration? (marked : Bool) (cs : List Char) : Option (Bool × List Char) :=
  match (after? "<?xml".toList cs).filter (·.head?.any isSpace) with
  | none => some (false, cs)
  | some rest => do
    let (version, rest) ← takeSetting? "version" rest
    guard (isVersion version)
    let (alone, rest) ← takeStandalone? (← passEncoding? marked rest)
    return (alone, ← after? "?>".toList (skipSpace rest))

/-- a text without the byte order mark at its head, and whether there was one -/
def dropMark : List Char → Bool × List Char
  | '\ufeff' :: cs => (true, cs)
  | cs => (false, cs)

/-- whether a document stands alone, and its characters after the declaration, with a line feed at the end of every line -/
def openDocument? (s : String) : Option (Bool × List Char) :=
  let (marked, cs) := dropMark s.toList
  takeDeclaration? marked (Text.unifyLines cs)

end YangDesign.Xml
