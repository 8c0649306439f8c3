/-
Symbolic names of nodes, the namespaces of the OPC UA vocabulary, and the prefixes that no design may take for itself.
-/

namespace YangDesign.Design

/-- namespace of the built-in OPC UA vocabulary -/
def baseUri : String :=
  "http://opcfoundation.org/UA/"

/-- namespace of the OPC UA encoding of values -/
def typesUri : String :=
  "http://opcfoundation.org/UA/2008/02/Types.xsd"

/-- a name in a namespace -/
structure SymbolicName where
  namespaceUri : String
  name : String
  deriving DecidableEq, Repr

/-- whether a name belongs to the built-in vocabulary -/
def SymbolicName.isBuiltIn (n : SymbolicName) : Bool :=
  n.namespaceUri == baseUri

/-- a name of the built-in vocabulary -/
def builtInName (name : String) : SymbolicName :=
  ⟨baseUri, name⟩

/-- prefixes that every written design uses -/
def reservedPrefixes : List String :=
  ["opc", "ua", "uax", "xsi", "xsd"]

/-- whether a name may not be used as the prefix of a design: it is taken, or starts with `xml` in any case -/
def isReserved (name : String) : Bool :=
  reservedPrefixes.contains name || (name.toList.take 3).map Char.toLower == ['x', 'm', 'l']

theorem builtInName_isBuiltIn (name : String) : (builtInName name).isBuiltIn := by
  simp [builtInName, SymbolicName.isBuiltIn]

end YangDesign.Design
