/-
Plain text: what is left of a text when it is decomposed canonically and only ASCII is kept.

A character outside ASCII leaves the ASCII base letter or sign of its canonical decomposition, or nothing; a decomposition
never holds more than one. The right single quotation mark is written as an apostrophe first, and a line feed or a tab as a
space.
-/
import YangDesign.Text.Letter

namespace YangDesign.Text

/-- by ASCII base: the characters whose canonical decomposition holds it -/
def composedFrom : List (Nat × List Nat) := [
  (0x3B, [ -- ;
    0x37E]),
  (0x3C, [ -- <
    0x226E]),
  (0x3D, [ -- =
    0x2260]),
  (0x3E, [ -- >
    0x226F]),
  (0x41, [ -- A
    0xC0, 0xC1, 0xC2, 0xC3, 0xC4, 0xC5, 0x100, 0x102, 0x104, 0x1CD, 0x1DE, 0x1E0, 0x1FA, 0x200, 0x202, 0x226,
    0x1E00, 0x1EA0, 0x1EA2, 0x1EA4, 0x1EA6, 0x1EA8, 0x1EAA, 0x1EAC, 0x1EAE, 0x1EB0, 0x1EB2, 0x1EB4, 0x1EB6, 0x212B]),
  (0x42, [ -- B
    0x1E02, 0x1E04, 0x1E06]),
  (0x43, [ -- C
    0xC7, 0x106, 0x108, 0x10A, 0x10C, 0x1E08]),
  (0x44, [ -- D
    0x10E, 0x1E0A, 0x1E0C, 0x1E0E, 0x1E10, 0x1E12]),
  (0x45, [ -- E
    0xC8, 0xC9, 0xCA, 0xCB, 0x112, 0x114, 0x116, 0x118, 0x11A, 0x204, 0x206, 0x228, 0x1E14, 0x1E16, 0x1E18, 0x1E1A,
    0x1E1C, 0x1EB8, 0x1EBA, 0x1EBC, 0x1EBE, 0x1EC0, 0x1EC2, 0x1EC4, 0x1EC6]),
  (0x46, [ -- F
    0x1E1E]),
  (0x47, [ -- G
    0x11C, 0x11E, 0x120, 0x122, 0x1E6, 0x1F4, 0x1E20]),
  (0x48, [ -- H
    0x124, 0x21E, 0x1E22, 0x1E24, 0x1E26, 0x1E28, 0x1E2A]),
  (0x49, [ -- I
    0xCC, 0xCD, 0xCE, 0xCF, 0x128, 0x12A, 0x12C, 0x12E, 0x130, 0x1CF, 0x208, 0x20A, 0x1E2C, 0x1E2E, 0x1EC8, 0x1ECA]),
  (0x4A, [ -- J
    0x134]),
  (0x4B, [ -- K
    0x136, 0x1E8, 0x1E30, 0x1E32, 0x1E34, 0x212A]),
  (0x4C, [ -- L
    0x139, 0x13B, 0x13D, 0x1E36, 0x1E38, 0x1E3A, 0x1E3C]),
  (0x4D, [ -- M
    0x1E3E, 0x1E40, 0x1E42]),
  (0x4E, [ -- N
    0xD1, 0x143, 0x145, 0x147, 0x1F8, 0x1E44, 0x1E46, 0x1E48, 0x1E4A]),
  (0x4F, [ -- O
    0xD2, 0xD3, 0xD4, 0xD5, 0xD6, 0x14C, 0x14E, 0x150, 0x1A0, 0x1D1, 0x1EA, 0x1EC, 0x20C, 0x20E, 0x22A, 0x22C,
    0x22E, 0x230, 0x1E4C, 0x1E4E, 0x1E50, 0x1E52, 0x1ECC, 0x1ECE, 0x1ED0, 0x1ED2, 0x1ED4, 0x1ED6, 0x1ED8, 0x1EDA,
    0x1EDC, 0x1EDE, 0x1EE0, 0x1EE2]),
  (0x50, [ -- P
    0x1E54, 0x1E56]),
  (0x52, [ -- R
    0x154, 0x156, 0x158, 0x210, 0x212, 0x1E58, 0x1E5A, 0x1E5C, 0x1E5E]),
  (0x53, [ -- S
    0x15A, 0x15C, 0x15E, 0x160, 0x218, 0x1E60, 0x1E62, 0x1E64, 0x1E66, 0x1E68]),
  (0x54, [ -- T
    0x162, 0x164, 0x21A, 0x1E6A, 0x1E6C, 0x1E6E, 0x1E70]),
  (0x55, [ -- U
    0xD9, 0xDA, 0xDB, 0xDC, 0x168, 0x16A, 0x16C, 0x16E, 0x170, 0x172, 0x1AF, 0x1D3, 0x1D5, 0x1D7, 0x1D9, 0x1DB,
    0x214, 0x216, 0x1E72, 0x1E74, 0x1E76, 0x1E78, 0x1E7A, 0x1EE4, 0x1EE6, 0x1EE8, 0x1EEA, 0x1EEC, 0x1EEE, 0x1EF0]),
  (0x56, [ -- V
    0x1E7C, 0x1E7E]),
  (0x57, [ -- W
    0x174, 0x1E80, 0x1E82, 0x1E84, 0x1E86, 0x1E88]),
  (0x58, [ -- X
    0x1E8A, 0x1E8C]),
  (0x59, [ -- Y
    0xDD, 0x176, 0x178, 0x232, 0x1E8E, 0x1EF2, 0x1EF4, 0x1EF6, 0x1EF8]),
  (0x5A, [ -- Z
    0x179, 0x17B, 0x17D, 0x1E90, 0x1E92, 0x1E94]),
  (0x60, [ -- grave accent
    0x1FEF]),
  (0x61, [ -- a
    0xE0, 0xE1, 0xE2, 0xE3, 0xE4, 0xE5, 0x101, 0x103, 0x105, 0x1CE, 0x1DF, 0x1E1, 0x1FB, 0x201, 0x203, 0x227,
    0x1E01, 0x1EA1, 0x1EA3, 0x1EA5, 0x1EA7, 0x1EA9, 0x1EAB, 0x1EAD, 0x1EAF, 0x1EB1, 0x1EB3, 0x1EB5, 0x1EB7]),
  (0x62, [ -- b
    0x1E03, 0x1E05, 0x1E07]),
  (0x63, [ -- c
    0xE7, 0x107, 0x109, 0x10B, 0x10D, 0x1E09]),
  (0x64, [ -- d
    0x10F, 0x1E0B, 0x1E0D, 0x1E0F, 0x1E11, 0x1E13]),
  (0x65, [ -- e
    0xE8, 0xE9, 0xEA, 0xEB, 0x113, 0x115, 0x117, 0x119, 0x11B, 0x205, 0x207, 0x229, 0x1E15, 0x1E17, 0x1E19, 0x1E1B,
    0x1E1D, 0x1EB9, 0x1EBB, 0x1EBD, 0x1EBF, 0x1EC1, 0x1EC3, 0x1EC5, 0x1EC7]),
  (0x66, [ -- f
    0x1E1F]),
  (0x67, [ -- g
    0x11D, 0x11F, 0x121, 0x123, 0x1E7, 0x1F5, 0x1E21]),
  (0x68, [ -- h
    0x125, 0x21F, 0x1E23, 0x1E25, 0x1E27, 0x1E29, 0x1E2B, 0x1E96]),
  (0x69, [ -- i
    0xEC, 0xED, 0xEE, 0xEF, 0x129, 0x12B, 0x12D, 0x12F, 0x1D0, 0x209, 0x20B, 0x1E2D, 0x1E2F, 0x1EC9, 0x1ECB]),
  (0x6A, [ -- j
    0x135, 0x1F0]),
  (0x6B, [ -- k
    0x137, 0x1E9, 0x1E31, 0x1E33, 0x1E35]),
  (0x6C, [ -- l
    0x13A, 0x13C, 0x13E, 0x1E37, 0x1E39, 0x1E3B, 0x1E3D]),
  (0x6D, [ -- m
    0x1E3F, 0x1E41, 0x1E43]),
  (0x6E, [ -- n
    0xF1, 0x144, 0x146, 0x148, 0x1F9, 0x1E45, 0x1E47, 0x1E49, 0x1E4B]),
  (0x6F, [ -- o
    0xF2, 0xF3, 0xF4, 0xF5, 0xF6, 0x14D, 0x14F, 0x151, 0x1A1, 0x1D2, 0x1EB, 0x1ED, 0x20D, 0x20F, 0x22B, 0x22D,
    0x22F, 0x231, 0x1E4D, 0x1E4F, 0x1E51, 0x1E53, 0x1ECD, 0x1ECF, 0x1ED1, 0x1ED3, 0x1ED5, 0x1ED7, 0x1ED9, 0x1EDB,
    0x1EDD, 0x1EDF, 0x1EE1, 0x1EE3]),
  (0x70, [ -- p
    0x1E55, 0x1E57]),
  (0x72, [ -- r
    0x155, 0x157, 0x159, 0x211, 0x213, 0x1E59, 0x1E5B, 0x1E5D, 0x1E5F]),
  (0x73, [ -- s
    0x15B, 0x15D, 0x15F, 0x161, 0x219, 0x1E61, 0x1E63, 0x1E65, 0x1E67, 0x1E69]),
  (0x74, [ -- t
    0x163, 0x165, 0x21B, 0x1E6B, 0x1E6D, 0x1E6F, 0x1E71, 0x1E97]),
  (0x75, [ -- u
    0xF9, 0xFA, 0xFB, 0xFC, 0x169, 0x16B, 0x16D, 0x16F, 0x171, 0x173, 0x1B0, 0x1D4, 0x1D6, 0x1D8, 0x1DA, 0x1DC,
    0x215, 0x217, 0x1E73, 0x1E75, 0x1E77, 0x1E79, 0x1E7B, 0x1EE5, 0x1EE7, 0x1EE9, 0x1EEB, 0x1EED, 0x1EEF, 0x1EF1]),
  (0x76, [ -- v
    0x1E7D, 0x1E7F]),
  (0x77, [ -- w
    0x175, 0x1E81, 0x1E83, 0x1E85, 0x1E87, 0x1E89, 0x1E98]),
  (0x78, [ -- x
    0x1E8B, 0x1E8D]),
  (0x79, [ -- y
    0xFD, 0xFF, 0x177, 0x233, 0x1E8F, 0x1E99, 0x1EF3, 0x1EF5, 0x1EF7, 0x1EF9]),
  (0x7A, [ -- z
    0x17A, 0x17C, 0x17E, 0x1E91, 0x1E93, 0x1E95])]

/-- the ASCII part of the canonical decomposition of one character -/
def asciiPart (c : Char) : List Char :=
  if c.toNat < 128 then [c]
  else match composedFrom.find? (·.2.contains c.toNat) with
    | some (base, _) => [Char.ofNat base]
    | none => []

/-- quotation mark, line feed and tab brought to one form -/
def plainBreaks (c : Char) : Char :=
  if c = '\u2019' then '\x27' else if c = '\n' || c = '\t' then ' ' else c

/-- ASCII text without line feeds and tabs -/
def plain (s : String) : String :=
  .ofList ((s.toList.map plainBreaks).flatMap asciiPart)

end YangDesign.Text
