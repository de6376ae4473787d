import ClassAtlas.Record.Class

/-!
# Import contexts

Linking asks for the records of one class or one code unit at a time, by name.  What it needs to
know is collected in an import context, so that it does not depend on how records are stored.
-/

namespace ClassAtlas

/-- The records of the classes to be linked.  A name without a record has no supertypes, no members
and no accesses. -/
structure ImportContext where
  /-- The classes to be linked, in order. -/
  headers : List Record.Header
  superclass : String → Option TypeSig
  interfaces : String → List TypeSig
  typeParameters : String → List TypeParam
  enclosingClass : String → Option String
  fields : String → List Record.Field
  methods : String → List Record.CodeUnit
  constructors : String → List Record.CodeUnit
  staticInitializer : String → Option Record.CodeUnit
  annotations : String → List Record.Annot
  fieldAccesses : UnitKey → List Record.FieldAccess
  methodCalls : UnitKey → List Record.Call
  constructorCalls : UnitKey → List Record.Call
  methodReferences : UnitKey → List Record.Call
  constructorReferences : UnitKey → List Record.Call

end ClassAtlas
