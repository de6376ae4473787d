import ClassAtlas.Modifier
import ClassAtlas.Record.Annot
import ClassAtlas.Record.TypeSig
import ClassAtlas.TypeName.ClassFile

/-!
# Members as recorded

Fields, and the code units: methods, constructors and static initializers with what was found in
their bodies.

* `Record.Field`, `Record.CodeUnit` — the records.
* `CodeUnit.descriptorIn` — the class file descriptor of a code unit, over the erasures of its
  types.
* `UnitKey` — what a code unit is looked up by.
-/

namespace ClassAtlas

/-- The name of every constructor. -/
def constructorName : String :=
  "<init>"

/-- The name of every static initializer. -/
def staticInitializerName : String :=
  "<clinit>"

/-- How a field is accessed. -/
inductive FieldUse where
  | get
  | set
  | unknown
deriving DecidableEq, Repr, Hashable, Inhabited

/-- The word for a use of a field. -/
def FieldUse.text : FieldUse → String
  | .get => "get"
  | .set => "set"
  | .unknown => "unknown"

/-- What a code unit is looked up by: the name of its class, its name and its descriptor. -/
structure UnitKey where
  owner : String
  name : String
  descriptor : String
deriving DecidableEq, Repr, Inhabited

namespace Record

/-- A field. -/
structure Field where
  name : String
  type : TypeSig
  modifiers : Modifiers := .none
  annotations : List Annot := []
deriving Inhabited

/-- A parameter of a code unit. -/
structure Param where
  type : TypeSig
  annotations : List Annot := []
deriving Inhabited

/-- An access to a field. -/
structure FieldAccess where
  owner : String
  name : String
  type : String
  use : FieldUse := .unknown
  line : Nat := 0
deriving DecidableEq, Inhabited

/-- A call of a method or constructor, or a reference to one. -/
structure Call where
  owner : String
  name : String
  parameters : List String := []
  returns : String := "void"
  line : Nat := 0
deriving DecidableEq, Inhabited

/-- The types caught by one `catch`. -/
structure CatchBlock where
  types : List String
  line : Nat := 0
deriving DecidableEq, Inhabited

/-- A use of a type in a body: an `instanceof` check or a class literal. -/
structure TypeUse where
  type : String
  line : Nat := 0
deriving DecidableEq, Inhabited

/-- A method, constructor or static initializer. -/
structure CodeUnit where
  name : String
  /-- The descriptor of the class file, if it was recorded. -/
  descriptor : Option String := none
  modifiers : Modifiers := .none
  typeParameters : List TypeParam := []
  parameters : List Param := []
  returns : TypeSig := .cls "void"
  throws : List String := []
  annotations : List Annot := []
  firstLine : Nat := 0
  fieldAccesses : List FieldAccess := []
  methodCalls : List Call := []
  constructorCalls : List Call := []
  methodReferences : List Call := []
  constructorReferences : List Call := []
  catchBlocks : List CatchBlock := []
  instanceofChecks : List TypeUse := []
  classObjects : List TypeUse := []
deriving Inhabited

namespace CodeUnit

/-- The erased names of the parameter types; `classScopes` are the type parameters of the class and
of the classes around it. -/
def erasedParameters (u : CodeUnit) (classScopes : TypeScopes) : List String :=
  u.parameters.map fun p => p.type.erasedName (u.typeParameters :: classScopes)

/-- The descriptor: the recorded one, or the one of the erased types. -/
def descriptorIn (u : CodeUnit) (classScopes : TypeScopes) : String :=
  match u.descriptor with
  | some recorded => recorded
  | none =>
    methodDescriptor (u.erasedParameters classScopes)
      (u.returns.erasedName (u.typeParameters :: classScopes))

/-- The key of a code unit of a class. -/
def key (u : CodeUnit) (owner : String) (classScopes : TypeScopes) : UnitKey :=
  ⟨owner, u.name, u.descriptorIn classScopes⟩

end CodeUnit

end Record

end ClassAtlas
