/-
Numerals: decimal digits of all scripts, and digits padded to a width, hexadecimal and grouped by thousands.

Unicode assigns the decimal digits in runs of ten, so a table of zeros is enough.
-/

namespace YangDesign.Text

/-- the digit zero of every script -/
def digitZeros : List Nat := [
  0x30, 0x660, 0x6F0, 0x7C0, 0x966, 0x9E6, 0xA66, 0xAE6, 0xB66, 0xBE6, 0xC66, 0xCE6, 0xD66, 0xDE6, 0xE50, 0xED0,
  0xF20, 0x1040, 0x1090, 0x17E0, 0x1810, 0x1946, 0x19D0, 0x1A80, 0x1A90, 0x1B50, 0x1BB0, 0x1C40, 0x1C50, 0xA620,
  0xA8D0, 0xA900, 0xA9D0, 0xA9F0, 0xAA50, 0xABF0, 0xFF10, 0x104A0, 0x10D30, 0x11066, 0x110F0, 0x11136, 0x111D0,
  0x112F0, 0x11450, 0x114D0, 0x11650, 0x116C0, 0x11730, 0x118E0, 0x11950, 0x11C50, 0x11D50, 0x11DA0, 0x16A60, 0x16AC0,
  0x16B50, 0x1D7CE, 0x1D7D8, 0x1D7E2, 0x1D7EC, 0x1D7F6, 0x1E140, 0x1E2F0, 0x1E950, 0x1FBF0]

/-- the value of a decimal digit of any script -/
def digitValue? (c : Char) : Option Nat :=
  (digitZeros.find? fun z => z ≤ c.toNat && c.toNat < z + 10).map (c.toNat - ·)

/-- `cs` with `c` in front until it is `width` characters long -/
def padStart (width : Nat) (c : Char) (cs : List Char) : List Char :=
  List.replicate (width - cs.length) c ++ cs

/-- decimal digits, at least `width` of them -/
def padded (width n : Nat) : String :=
  .ofList (padStart width '0' (Nat.toDigits 10 n))

/-- lower-case hexadecimal digits, at least `width` of them -/
def hex (width n : Nat) : String :=
  .ofList (padStart width '0' (Nat.toDigits 16 n))

/-- digits least significant first, with a comma after every third one that has a successor -/
def groupThousands : List Char → List Char
  | a :: b :: c :: d :: ds => a :: b :: c :: ',' :: groupThousands (d :: ds)
  | ds => ds

/-- decimal digits in groups of three -/
def thousands (n : Nat) : String :=
  .ofList (groupThousands (Nat.toDigits 10 n).reverse).reverse

end YangDesign.Text
