/-
Styles of text by name: attributes such as `bold`, each of which may be refused by `not`, a colour, a background colour and a
link.

A style has many names; `styleName` brings a name that can be read to one form, in which attributes come in a fixed order and
without abbreviations. A name that cannot be read is its own form in lower case.
-/
import YangDesign.Text.Blank
import YangDesign.Text.Lines
import YangDesign.Text.Lower
import YangDesign.Text.Numeral

namespace YangDesign.Console

open Text

/-- attributes in the order of a style's name, each with its abbreviations -/
def attributeNames : List (String × List String) := [
  ("bold", ["b"]), ("dim", ["d"]), ("italic", ["i"]), ("underline", ["u"]), ("blink", []), ("blink2", []),
  ("reverse", ["r"]), ("conceal", ["c"]), ("strike", ["s"]), ("underline2", ["uu"]), ("frame", []), ("encircle", []),
  ("overline", ["o"])]

/-- colours that have names, the terminal's own among them -/
def colourNames : List String := [
  "default",
  "black", "red", "green", "yellow", "blue", "magenta", "cyan", "white", "bright_black", "bright_red", "bright_green",
  "bright_yellow", "bright_blue", "bright_magenta", "bright_cyan", "bright_white", "grey0", "gray0", "navy_blue",
  "dark_blue", "blue3", "blue1", "dark_green", "deep_sky_blue4", "dodger_blue3", "dodger_blue2", "green4",
  "spring_green4", "turquoise4", "deep_sky_blue3", "dodger_blue1", "green3", "spring_green3", "dark_cyan",
  "light_sea_green", "deep_sky_blue2", "deep_sky_blue1", "spring_green2", "cyan3", "dark_turquoise", "turquoise2",
  "green1", "spring_green1", "medium_spring_green", "cyan2", "cyan1", "dark_red", "deep_pink4", "purple4", "purple3",
  "blue_violet", "orange4", "grey37", "gray37", "medium_purple4", "slate_blue3", "royal_blue1", "chartreuse4",
  "dark_sea_green4", "pale_turquoise4", "steel_blue", "steel_blue3", "cornflower_blue", "chartreuse3", "cadet_blue",
  "sky_blue3", "steel_blue1", "pale_green3", "sea_green3", "aquamarine3", "medium_turquoise", "chartreuse2",
  "sea_green2", "sea_green1", "aquamarine1", "dark_slate_gray2", "dark_magenta", "dark_violet", "purple", "light_pink4",
  "plum4", "medium_purple3", "slate_blue1", "yellow4", "wheat4", "grey53", "gray53", "light_slate_grey",
  "light_slate_gray", "medium_purple", "light_slate_blue", "dark_olive_green3", "dark_sea_green", "light_sky_blue3",
  "sky_blue2", "dark_sea_green3", "dark_slate_gray3", "sky_blue1", "chartreuse1", "light_green", "pale_green1",
  "dark_slate_gray1", "red3", "medium_violet_red", "magenta3", "dark_orange3", "indian_red", "hot_pink3",
  "medium_orchid3", "medium_orchid", "medium_purple2", "dark_goldenrod", "light_salmon3", "rosy_brown", "grey63",
  "gray63", "medium_purple1", "gold3", "dark_khaki", "navajo_white3", "grey69", "gray69", "light_steel_blue3",
  "light_steel_blue", "yellow3", "dark_sea_green2", "light_cyan3", "light_sky_blue1", "green_yellow",
  "dark_olive_green2", "dark_sea_green1", "pale_turquoise1", "deep_pink3", "magenta2", "hot_pink2", "orchid",
  "medium_orchid1", "orange3", "light_pink3", "pink3", "plum3", "violet", "light_goldenrod3", "tan", "misty_rose3",
  "thistle3", "plum2", "khaki3", "light_goldenrod2", "light_yellow3", "grey84", "gray84", "light_steel_blue1",
  "yellow2", "dark_olive_green1", "honeydew2", "light_cyan1", "red1", "deep_pink2", "deep_pink1", "magenta1",
  "orange_red1", "indian_red1", "hot_pink", "dark_orange", "salmon1", "light_coral", "pale_violet_red1", "orchid2",
  "orchid1", "orange1", "sandy_brown", "light_salmon1", "light_pink1", "pink1", "plum1", "gold1", "navajo_white1",
  "misty_rose1", "thistle1", "yellow1", "light_goldenrod1", "khaki1", "wheat1", "cornsilk1", "grey100", "gray100",
  "grey3", "gray3", "grey7", "gray7", "grey11", "gray11", "grey15", "gray15", "grey19", "gray19", "grey23", "gray23",
  "grey27", "gray27", "grey30", "gray30", "grey35", "gray35", "grey39", "gray39", "grey42", "gray42", "grey46",
  "gray46", "grey50", "gray50", "grey54", "gray54", "grey58", "gray58", "grey62", "gray62", "grey66", "gray66",
  "grey70", "gray70", "grey74", "gray74", "grey78", "gray78", "grey82", "gray82", "grey85", "gray85", "grey89",
  "gray89", "grey93", "gray93"]

/-- the attribute of a name or abbreviation -/
def attribute? (word : String) : Option String :=
  (attributeNames.find? fun (name, short) => name == word || short.contains word).map (·.1)

/-- why the name of a style is not read -/
inductive StyleFault where
  | unknownWord
  | emptyComponent
  deriving DecidableEq, Repr

/-- the text between a word with an opening bracket and a closing bracket -/
def bracketed? (before : String) (cs : List Char) : Option (List Char) :=
  if before.toList.isPrefixOf cs && cs.getLast? == some ')' then some ((cs.drop before.length).dropLast) else none

/-- the number of some decimal digits -/
def component? (cs : List Char) : Option Nat :=
  (cs.mapM digitValue?).map (·.foldl (fun n d => n * 10 + d) 0)

/-- whether a text in lower case is a colour: a name, `#` and six hexadecimal digits, `color(n)` or `rgb(r,g,b)` -/
def readsColour (s : String) : Except StyleFault Bool :=
  if colourNames.contains s then .ok true
  else
    let cs := s.toList
    match cs, bracketed? "color(" cs, bracketed? "rgb(" cs with
    | '#' :: digits, _, _ =>
      .ok (digits.length == 6 && digits.all fun c => c.isDigit || ('a' ≤ c && c ≤ 'f'))
    | _, some number, _ =>
      .ok (1 ≤ number.length && number.length ≤ 3 && number.all Char.isDigit && (component? number).any (· ≤ 255))
    | _, _, some body =>
      if body.isEmpty || !body.all fun c => c == ',' || (digitValue? c).isSome then .ok false
      else
        let parts := splitAtEach ',' body
        if parts.length ≠ 3 then .ok false
        else if parts.any (·.isEmpty) then .error .emptyComponent
        else .ok (parts.all fun part => (component? part).any (· ≤ 255))
    | _, _, _ => .ok false

/-- what the name of a style asks for -/
structure Style where
  attributes : List (String × Bool) := []
  colour : Option String := none
  background : Option String := none
  link : Option String := none
  deriving DecidableEq, Repr

/-- a text that must be a colour, in lower case -/
def colourName (word : String) : Except StyleFault String := do
  let name := String.ofList (lower word.toList)
  if ← readsColour name then return name else .error .unknownWord

/-- adds words to a style -/
def Style.withWords (s : Style) : List String → Except StyleFault Style
  | [] => .ok s
  | word :: words =>
    let name := String.ofList (lower word.toList)
    match name, words with
    | "on", colour :: words => do
      let colour ← colourName colour
      withWords { s with background := some colour } words
    | "not", short :: words =>
      match attribute? short with
      | some a => withWords { s with attributes := (a, false) :: s.attributes } words
      | none => .error .unknownWord
    | "link", address :: words => withWords { s with link := some address } words
    | _, words =>
      if ["on", "not", "link"].contains name then .error .unknownWord
      else
        match attribute? name with
        | some a => withWords { s with attributes := (a, true) :: s.attributes } words
        | none => do
          let colour ← colourName word
          withWords { s with colour := some colour } words

/-- the words of a style in their order -/
def Style.words (s : Style) : List String :=
  (attributeNames.filterMap fun (name, _) =>
    (s.attributes.lookup name).map fun wanted => if wanted then name else "not " ++ name) ++
    s.colour.toList ++ (s.background.toList.map ("on " ++ ·)) ++ (s.link.toList.map ("link " ++ ·))

/-- the name of a style in one form, unless a colour lacks a component -/
def styleName (cs : List Char) : Option String :=
  match Style.withWords {} (Text.words (.ofList cs)) with
  | .ok s => some (if s.words.isEmpty then "none" else " ".intercalate s.words)
  | .error .unknownWord => some (.ofList (lower (trimBlank cs)))
  | .error .emptyComponent => none

end YangDesign.Console
