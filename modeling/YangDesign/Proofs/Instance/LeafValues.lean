/-
What a leaf of some type can hold.

`Admits` says which values belong to a built-in type: the integers of a range, finite decimals, truth values, labels, texts,
and for a union any scalar but null. `leafValue_admitted`: whatever is decoded for a type of a resolved schema belongs to the
built-in type at its root, with two exceptions, which are told from the encoding alone. A decimal may be written as an
infinity or a not-a-number, and a union takes null.
-/
import YangDesign.Proofs.Instance.Representation
import YangDesign.Proofs.Number.Special
import YangDesign.Proofs.Schema.Resolution

namespace YangDesign.Instance

open Number Schema

/-! ## Values of the built-in types -/

/-- an integer between two bounds -/
def IsBetween (low high : Int) (v : Value) : Prop :=
  ∃ i, v = .int i ∧ low ≤ i ∧ i ≤ high

/-- a truth value, a number or a text -/
def IsPlainScalar : Value → Prop
  | .bool _ | .int _ | .float _ | .text _ | .broken _ => True
  | _ => False

/-- whether the values of a built-in type are texts that are kept as they are -/
def IsCoded : BuiltIn → Prop
  | .binary | .bits | .identityref | .instanceIdentifier | .leafref | .string => True
  | _ => False

/-- a value belongs to a built-in type with some labels -/
def Admits (enums : List EnumValue) (v : Value) : BuiltIn → Prop
  | .int8 => IsBetween (-128) 127 v
  | .int16 => IsBetween (-32768) 32767 v
  | .int32 => IsBetween (-2147483648) 2147483647 v
  | .int64 => IsBetween (-9223372036854775808) 9223372036854775807 v
  | .uint8 => IsBetween 0 255 v
  | .uint16 => IsBetween 0 65535 v
  | .uint32 => IsBetween 0 4294967295 v
  | .uint64 => IsBetween 0 18446744073709551615 v
  | .decimal64 => ∃ d, v = .decimal d ∧ d.IsFinite
  | .boolean => ∃ b, v = .bool b
  | .empty => v = .bool true
  | .enumeration => ∃ e ∈ enums, v = .text e.name
  | .union => IsPlainScalar v
  | .binary | .bits | .identityref | .instanceIdentifier | .leafref | .string => ∃ s, v = .ofCoded s

/-- a number or a text that stands for an infinity or a not-a-number -/
def IsSpecial : Value → Prop
  | .float x => ¬x.IsFinite
  | .text s => NamesSpecial s
  | _ => False

/-! ## Decoding -/

section Decoded

variable {b : BuiltIn} {enums : List EnumValue} {x v : Value}

theorem decodeInt_between {low high : Int} (h : decodeInt b (low, high) x = .ok v) : IsBetween low high v := by
  unfold decodeInt at h
  split at h
  · cases h
  · split at h
    · rename_i i _ hrange
      cases h
      rw [Bool.and_eq_true, decide_eq_true_eq, decide_eq_true_eq] at hrange
      exact ⟨i, rfl, hrange⟩
    · cases h

theorem decodeBuiltIn_decimal64_iff :
    decodeBuiltIn .decimal64 enums x = .ok v ↔ ∃ d, decimalOf? x = some d ∧ v = .decimal d := by
  simp only [decodeBuiltIn, intRange?]
  cases decimalOf? x with
  | none => simp
  | some d => simp [eq_comm]

/-- a label is kept -/
theorem decodeBuiltIn_enumeration_iff :
    decodeBuiltIn .enumeration enums x = .ok v ↔ ∃ s, isLabel enums s = true ∧ x = .text s ∧ v = .text s := by
  simp only [decodeBuiltIn, intRange?]
  cases x <;> simp
  rename_i s
  cases isLabel enums s <;> simp [eq_comm]

/-- a text is kept -/
theorem eq_ofCoded_of_decodeBuiltIn (h : decodeBuiltIn b enums x = .ok v) (hb : IsCoded b) :
    ∃ c, x = .ofCoded c ∧ v = .ofCoded c := by
  cases b with
  | binary | bits | identityref | instanceIdentifier | leafref | string =>
    simp only [decodeBuiltIn, intRange?] at h
    split at h <;> cases h
    · exact ⟨.text _, rfl, rfl⟩
    · exact ⟨.broken _, rfl, rfl⟩
  | _ => exact hb.elim

/-- the decimal of a number or text is no finite number exactly for the special ones -/
theorem decimalOf?_finite_iff {d : Decimal} (h : decimalOf? x = some d) : d.IsFinite ↔ ¬IsSpecial x := by
  cases x with
  | int i =>
    rw [decimalOf?] at h
    split at h
    · cases h
    · cases h
      exact iff_of_true ⟨_, _, _, rfl⟩ not_false
  | float y =>
    have hspecial := (not_isFinite_iff h).trans (namesSpecial_text_iff y)
    exact (not_iff_comm.1 hspecial).symm
  | text s => exact (not_iff_comm.1 (not_isFinite_iff h)).symm
  | _ => cases h

/-- a decoded value belongs to its built-in type, but for a special decimal and null in a union -/
theorem decodeBuiltIn_admits (hx : IsJson x) (h : decodeBuiltIn b enums x = .ok v) :
    Admits enums v b ↔ ¬(b = .decimal64 ∧ IsSpecial x) ∧ ¬(b = .union ∧ x = .null) := by
  cases b with
  | int8 | int16 | int32 | int64 | uint8 | uint16 | uint32 | uint64 =>
    exact iff_of_true (decodeInt_between h) ⟨nofun, nofun⟩
  | decimal64 =>
    obtain ⟨d, hd, rfl⟩ := decodeBuiltIn_decimal64_iff.1 h
    simp [Admits, decimalOf?_finite_iff hd]
  | boolean =>
    simp only [decodeBuiltIn, intRange?] at h
    split at h <;> cases h
    exact iff_of_true ⟨_, rfl⟩ ⟨nofun, nofun⟩
  | empty =>
    simp only [decodeBuiltIn, intRange?] at h
    split at h <;> cases h
    exact iff_of_true rfl ⟨nofun, nofun⟩
  | enumeration =>
    obtain ⟨s, hlabel, -, rfl⟩ := decodeBuiltIn_enumeration_iff.1 h
    obtain ⟨e, he, hname⟩ := List.any_eq_true.1 hlabel
    exact iff_of_true ⟨e, he, by rw [beq_iff_eq.1 hname]⟩ ⟨nofun, nofun⟩
  | union =>
    simp only [decodeBuiltIn, intRange?, hx.head_eq] at h
    cases hx <;> cases h <;> simp [Admits, IsPlainScalar]
  | binary | bits | identityref | instanceIdentifier | leafref | string =>
    obtain ⟨c, -, rfl⟩ := eq_ofCoded_of_decodeBuiltIn h trivial
    exact iff_of_true ⟨c, rfl⟩ ⟨nofun, nofun⟩

end Decoded

theorem decodeLeaf_builtIn {t : TypeDef} {b : BuiltIn} (hb : t.kind = .builtIn b) {path : List String} {x v : Value} :
    decodeLeaf (some t) path x = .ok v ↔ decodeBuiltIn b t.enums x = .ok v := by
  simp only [decodeLeaf, hb, mapError_eq_ok_iff]

/-- **Values of leaves.** What is decoded for a type of a resolved schema is a value of the built-in type at its root, except
for a decimal that is written as an infinity or a not-a-number and for null in a union. -/
theorem leafValue_admitted {doc : Document} {tree : Tree} (hresolve : doc.resolve = .ok tree) {t : TypeDef}
    (ht : t ∈ tree.types) {path : List String} {x v : Value} (hx : IsJson x) (h : decodeLeaf (some t) path x = .ok v) :
    ∃ b, t.kind = .builtIn b ∧
      (Admits t.enums v b ↔ ¬(b = .decimal64 ∧ IsSpecial x) ∧ ¬(b = .union ∧ x = .null)) := by
  obtain ⟨b, hchain⟩ := (Document.resolve_resolved hresolve).rooted ht
  have hb : t.kind = .builtIn b := hchain t t.self_mem_chain
  exact ⟨b, hb, decodeBuiltIn_admits hx ((decodeLeaf_builtIn hb).1 h)⟩

/-- a schema with a leaf that holds a decimal -/
def gaugeSchema : Document :=
  ⟨[⟨"m", "urn:m", "m", none, [.named "x" none (.leaf ⟨"decimal64", none, none⟩) []]⟩]⟩

/-- the type of the leaf -/
def gaugeType : TypeDef :=
  ⟨⟨"urn:m", "decimal64"⟩, ["x", "decimal64"], .builtIn .decimal64, none, [], none⟩

/-- the tree of the schema -/
def gaugeTree : Tree :=
  ⟨[⟨"m", "urn:m", "m", [⟨⟨⟨"urn:m", "x"⟩, ["x"], none⟩, .leaf (some gaugeType), []⟩], none⟩]⟩

/-- a not-a-number is taken for a decimal, and is none -/
theorem gauge_not_a_number : gaugeSchema.resolve = .ok gaugeTree ∧ gaugeType ∈ gaugeTree.types ∧
    decodeLeaf (some gaugeType) ["m:x"] (.text "NaN") = .ok (.decimal (.nan false false 0)) ∧
    ¬Admits gaugeType.enums (.decimal (.nan false false 0)) .decimal64 := by
  have hresolve : gaugeSchema.resolve = .ok gaugeTree := rfl
  have hmem : gaugeType ∈ gaugeTree.types := List.mem_singleton.2 rfl
  have hread : Decimal.read? "NaN" = some (.nan false false 0) := by
    decide +kernel
  have hdecode : decodeLeaf (some gaugeType) ["m:x"] (.text "NaN") = .ok (.decimal (.nan false false 0)) :=
    (decodeLeaf_builtIn rfl).2 (decodeBuiltIn_decimal64_iff.2 ⟨_, hread, rfl⟩)
  obtain ⟨b, hb, hiff⟩ := leafValue_admitted hresolve hmem (.text "NaN") hdecode
  obtain rfl : BuiltIn.decimal64 = b := by simpa [gaugeType] using hb
  have hword : (takeSign (unadorned "NaN")).2.map Char.toLower = "nan".toList ++ [] := by
    decide +kernel
  have hspecial : NamesSpecial "NaN" := Or.inr (Or.inr ⟨[], List.forall_mem_nil _, Or.inl hword⟩)
  exact ⟨hresolve, hmem, hdecode, fun h => (hiff.1 h).1 ⟨rfl, hspecial⟩⟩

end YangDesign.Instance
