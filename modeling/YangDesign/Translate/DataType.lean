/-
Data types. A primitive type is a name of the built-in vocabulary; any other type becomes a data type of the design, which
derives from that of its base. An enumeration derives from the built-in enumeration and lists its labels as fields.
-/
import YangDesign.Translate.Progress

namespace YangDesign.Translate

open Design Schema

/-- the data type of the built-in vocabulary for a built-in type -/
def opcName : BuiltIn → String
  | .string => "String"
  | .binary => "ByteString"
  | .bits => "UInt32"
  | .boolean => "Boolean"
  | .decimal64 => "Int64"
  | .empty => "Structure"
  | .enumeration => "Enumeration"
  | .identityref => "NodeId"
  | .instanceIdentifier => "ExpandedNodeId"
  | .int8 => "SByte"
  | .int16 => "Int16"
  | .int32 => "Int32"
  | .int64 => "Int64"
  | .uint8 => "Byte"
  | .uint16 => "UInt16"
  | .uint32 => "UInt32"
  | .uint64 => "UInt64"
  | .leafref => "NodeId"
  | .union => "Variant"

/-- the data type of the built-in vocabulary for a kind -/
def primitiveType (k : Kind) (path : List String) : Except Failure SymbolicName :=
  match k with
  | .builtIn b => .ok (builtInName (opcName b))
  | .unknown name => .error (.untranslatable (.unknownKind name) path)

/-- the field for a label of an enumeration -/
def enumField (e : EnumValue) : Field :=
  ⟨e.name, some e.value, (e.description.filter (!·.isEmpty)).map Text.plain⟩

/-- names and description of a node whose browse name is also shown -/
def plainLabels (name : SymbolicName) (localName : String) (description : Option String) : Labels :=
  let (browse, display) := visibleNames localName none "" ""
  ⟨name, browse, display, describe description⟩

/-- the owner of the name of a type -/
def ownerOfType (t : TypeDef) : Owner :=
  ⟨t.name.namespaceUri, t.path⟩

/-- the fields of a data type: the labels of an enumeration -/
def fieldsOf (t : TypeDef) : List Field :=
  if t.kind = .builtIn .enumeration then t.enums.map enumField else []

/-- a type as a data type of the design, where `base` registers the data type it derives from -/
def dataTypeUnder (t : TypeDef) (base : Translator SymbolicName) : Translator SymbolicName := do
  let name ← nameFor (ownerOfType t) "DataType"
  register .dataType name do
    let baseType ← base
    let d : Definition :=
      ⟨plainLabels name t.name.localName t.description, .dataType (some baseType) (fieldsOf t)⟩
    emit d
    return d

/-- the data type that a type derives from; `derived` registers that of its base, if the base is itself derived -/
def baseDataType (t b : TypeDef) (derived : Translator SymbolicName) : Translator SymbolicName :=
  if t.kind = .builtIn .enumeration then pure (builtInName "Enumeration")
  else if b.base.isNone then liftM (primitiveType b.kind t.path)
  else derived

/-- the data type of the design for a type -/
def registerDataType : TypeDef → Translator SymbolicName
  | ⟨q, path, kind, none, enums, description⟩ =>
    dataTypeUnder ⟨q, path, kind, none, enums, description⟩ (liftM (primitiveType kind path))
  | ⟨q, path, kind, some b, enums, description⟩ =>
    dataTypeUnder ⟨q, path, kind, some b, enums, description⟩
      (baseDataType ⟨q, path, kind, some b, enums, description⟩ b (registerDataType b))

/-- the data type for a type -/
def dataTypeOf (t : TypeDef) : Translator SymbolicName :=
  if t.isPrimitive then liftM (primitiveType t.kind t.path) else registerDataType t

end YangDesign.Translate
