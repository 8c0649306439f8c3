/-
The value of a leaf from its JSON encoding (RFC 7951), by the built-in type at the root of its type.

Integers may be written as numbers or as texts and have to lie in the range of the type; decimals keep their digits; the
types that are written as texts are taken as they are.
-/
import YangDesign.Instance.Failure

namespace YangDesign.Instance

open Number Schema

/-- least and largest value of an integer type -/
def intRange? : BuiltIn → Option (Int × Int)
  | .int8 => some (-Int.pow 2 7, Int.pow 2 7 - 1)
  | .int16 => some (-Int.pow 2 15, Int.pow 2 15 - 1)
  | .int32 => some (-Int.pow 2 31, Int.pow 2 31 - 1)
  | .int64 => some (-Int.pow 2 63, Int.pow 2 63 - 1)
  | .uint8 => some (0, Int.pow 2 8 - 1)
  | .uint16 => some (0, Int.pow 2 16 - 1)
  | .uint32 => some (0, Int.pow 2 32 - 1)
  | .uint64 => some (0, Int.pow 2 64 - 1)
  | _ => none

/-- an integer from a number or a text -/
def intOf? : Value → Option Int
  | .int i => some i
  | .text s => readInteger s
  | _ => none

/-- a decimal from a number or a text -/
def decimalOf? : Value → Option Decimal
  | .int i => if (Value.int i).isOversized then none else some (.finite (i < 0) i.natAbs 0)
  | .float x => Decimal.read? x.text
  | .text s => Decimal.read? s
  | _ => none

/-- whether a label belongs to an enumeration -/
def isLabel (enums : List EnumValue) (s : String) : Bool :=
  enums.any (·.name == s)

/-- the value of an integer type -/
def decodeInt (b : BuiltIn) (range : Int × Int) (v : Value) : Except DataCause Value :=
  match intOf? v with
  | none => .error (.expected b.name v)
  | some i => if range.1 ≤ i && i ≤ range.2 then .ok (.int i) else .error (.outOfRange i b.name)

/-- the value of a built-in type -/
def decodeBuiltIn (b : BuiltIn) (enums : List EnumValue) (v : Value) : Except DataCause Value :=
  match intRange? b with
  | some range => decodeInt b range v
  | none =>
    match b with
    | .decimal64 =>
      match decimalOf? v with
      | some d => .ok (.decimal d)
      | none => .error (.expected "decimal64" v)
    | .boolean =>
      match v with
      | .bool _ => .ok v
      | _ => .error (.expected "boolean" v)
    | .empty =>
      match v with
      | .list [.null] => .ok (.bool true)
      | _ => .error .notEmpty
    | .enumeration =>
      match v with
      | .text s => if isLabel enums s then .ok v else .error (.notLabel v)
      | _ => .error (.notLabel v)
    | .union =>
      match v.head with
      | .map _ | .list _ => .error .notScalar
      | _ => .ok v
    | b =>
      match v with
      | .text _ | .broken _ => .ok v
      | _ => .error (.expected (b.name ++ " string") v)

/-- the value of a leaf; a type that is not known passes every value through, and a leaf without a type holds a text -/
def decodeLeaf (type : Option TypeDef) (path : List String) (v : Value) : Except DataFailure Value :=
  (match type with
  | none => decodeBuiltIn .string [] v
  | some t =>
    match t.kind with
    | .builtIn b => decodeBuiltIn b t.enums v
    | .unknown _ => .ok v).mapError (.of path)

/-- what is noted when the value of a leaf is decoded -/
def leafEvents (type : Option TypeDef) (path : List String) : Journal :=
  match type with
  | some ⟨_, _, .unknown kind, _, _, _⟩ => [.passedThrough kind path]
  | _ => []

end YangDesign.Instance
