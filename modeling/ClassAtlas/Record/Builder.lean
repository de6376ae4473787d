import ClassAtlas.Record.Class

/-!
# Building records

Records built up step by step, starting from one of the kinds of classes or code units.  The start
gives a record the modifiers and supertypes that every class of the kind has.
-/

namespace ClassAtlas.Record

/-! ## Code units -/

namespace CodeUnit

/-- A code unit with parameters of these classes. -/
def named (name : String) (parameters : List String) (returns : TypeSig) : CodeUnit :=
  { name := name, parameters := parameters.map fun p => { type := .cls p }, returns := returns }

/-- A method. -/
def method (name : String) (parameters : List String) (returns : String) : CodeUnit :=
  named name parameters (.cls returns)

/-- A constructor. -/
def constructor (parameters : List String) : CodeUnit :=
  named constructorName parameters (.cls "void")

/-- A static initializer. -/
def staticInitializer : CodeUnit :=
  { named staticInitializerName [] (.cls "void") with modifiers := .ofList [.static] }

/-- Adds modifiers. -/
def withModifiers (u : CodeUnit) (ms : List Modifier) : CodeUnit :=
  { u with modifiers := u.modifiers.add ms }

/-- Sets the line of the first instruction. -/
def atLine (u : CodeUnit) (line : Nat) : CodeUnit :=
  { u with firstLine := line }

/-- Declares a type parameter. -/
def withTypeParameter (u : CodeUnit) (p : TypeParam) : CodeUnit :=
  { u with typeParameters := u.typeParameters ++ [p] }

/-- Adds a parameter. -/
def withParameter (u : CodeUnit) (type : TypeSig) : CodeUnit :=
  { u with parameters := u.parameters ++ [{ type := type }] }

/-- Annotates the parameter at a position; without such a parameter nothing changes. -/
def withParameterAnnot (u : CodeUnit) (position : Nat) (a : Annot) : CodeUnit :=
  { u with
    parameters :=
      u.parameters.modify position fun p => { p with annotations := p.annotations ++ [a] } }

/-- Sets the return type. -/
def returning (u : CodeUnit) (type : TypeSig) : CodeUnit :=
  { u with returns := type }

/-- Declares a thrown type. -/
def throwing (u : CodeUnit) (type : String) : CodeUnit :=
  { u with throws := u.throws ++ [type] }

/-- Adds an annotation. -/
def withAnnot (u : CodeUnit) (a : Annot) : CodeUnit :=
  { u with annotations := u.annotations ++ [a] }

/-- Records an access to a field. -/
def accessingField (u : CodeUnit) (owner name type : String) (use : FieldUse) (line : Nat) :
    CodeUnit :=
  { u with fieldAccesses := u.fieldAccesses ++ [⟨owner, name, type, use, line⟩] }

/-- Records a method call. -/
def calling (u : CodeUnit) (owner name : String) (parameters : List String) (returns : String)
    (line : Nat) : CodeUnit :=
  { u with methodCalls := u.methodCalls ++ [⟨owner, name, parameters, returns, line⟩] }

/-- Records a constructor call. -/
def callingConstructor (u : CodeUnit) (owner : String) (parameters : List String) (line : Nat) :
    CodeUnit :=
  { u with
    constructorCalls :=
      u.constructorCalls ++ [⟨owner, constructorName, parameters, "void", line⟩] }

/-- Records a method reference. -/
def referencing (u : CodeUnit) (owner name : String) (parameters : List String)
    (returns : String) (line : Nat) : CodeUnit :=
  { u with methodReferences := u.methodReferences ++ [⟨owner, name, parameters, returns, line⟩] }

/-- Records a constructor reference. -/
def referencingConstructor (u : CodeUnit) (owner : String) (parameters : List String)
    (line : Nat) : CodeUnit :=
  { u with
    constructorReferences :=
      u.constructorReferences ++ [⟨owner, constructorName, parameters, "void", line⟩] }

/-- Records a `catch`. -/
def catching (u : CodeUnit) (types : List String) (line : Nat) : CodeUnit :=
  { u with catchBlocks := u.catchBlocks ++ [⟨types, line⟩] }

/-- Records an `instanceof` check. -/
def checkingInstanceof (u : CodeUnit) (type : String) (line : Nat) : CodeUnit :=
  { u with instanceofChecks := u.instanceofChecks ++ [⟨type, line⟩] }

/-- Records a class literal. -/
def usingClassObject (u : CodeUnit) (type : String) (line : Nat) : CodeUnit :=
  { u with classObjects := u.classObjects ++ [⟨type, line⟩] }

end CodeUnit

/-! ## Classes -/

namespace Class

/-- A public class of a kind, with the supertypes and modifiers of the kind. -/
def start (kind : ClassKind) (name : String) : Class :=
  match kind with
  | .cls => { name := name, modifiers := .ofList [.publicAccess] }
  | .interface =>
    { name := name, kind := .interface, modifiers := .ofList [.publicAccess, .abstract] }
  | .enum =>
    { name := name
      kind := .enum
      modifiers := .ofList [.publicAccess, .final, .enum]
      superclass := some (.parameterized "java.lang.Enum" [.cls name]) }
  | .annotationType =>
    { name := name
      kind := .annotationType
      modifiers := .ofList [.publicAccess, .abstract]
      interfaces := [.cls "java.lang.annotation.Annotation"] }
  | .record =>
    { name := name
      kind := .record
      modifiers := .ofList [.publicAccess, .final]
      superclass := some (.cls "java.lang.Record") }

/-- Sets the modifiers. -/
def withModifiers (c : Class) (ms : List Modifier) : Class :=
  { c with modifiers := .ofList ms }

/-- Sets the superclass. -/
def extending (c : Class) (type : TypeSig) : Class :=
  { c with superclass := some type }

/-- Adds an interface. -/
def implementing (c : Class) (type : TypeSig) : Class :=
  { c with interfaces := c.interfaces ++ [type] }

/-- Declares a type parameter. -/
def withTypeParameter (c : Class) (p : TypeParam) : Class :=
  { c with typeParameters := c.typeParameters ++ [p] }

/-- Sets the enclosing class. -/
def enclosedIn (c : Class) (name : String) : Class :=
  { c with enclosingClass := some name }

/-- Sets where the class was read from. -/
def readFrom (c : Class) (uri : String) (fileName : Option String) : Class :=
  { c with source := some ⟨uri, fileName⟩ }

/-- Adds an annotation. -/
def withAnnot (c : Class) (a : Annot) : Class :=
  { c with annotations := c.annotations ++ [a] }

/-- Adds a field. -/
def withField (c : Class) (f : Field) : Class :=
  { c with fields := c.fields ++ [f] }

/-- Adds a method. -/
def withMethod (c : Class) (u : CodeUnit) : Class :=
  { c with methods := c.methods ++ [u] }

/-- Adds a constructor. -/
def withConstructor (c : Class) (u : CodeUnit) : Class :=
  { c with constructors := c.constructors ++ [u] }

/-- Sets the static initializer. -/
def withStaticInitializer (c : Class) (u : CodeUnit) : Class :=
  { c with staticInitializer := some u }

end Class

end ClassAtlas.Record
