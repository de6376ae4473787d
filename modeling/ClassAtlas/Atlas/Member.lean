import ClassAtlas.Atlas.Annot
import ClassAtlas.Atlas.TypeRef
import ClassAtlas.Modifier

/-!
# Members

Fields and code units of linked classes.

* `Member` — a member with its owner, names, annotations and body.
* `CodeUnit` — what methods, constructors and static initializers have in common.
-/

namespace ClassAtlas

/-- A parameter of a code unit. -/
structure Param where
  position : Nat
  type : TypeRef
  raw : ClassId
  annotations : List Annot
deriving Inhabited

/-- The classes caught by one `catch`. -/
structure CatchBlock where
  types : List ClassId
  line : Nat
deriving DecidableEq, Inhabited

/-- A use of a class in a body: an `instanceof` check or a class literal. -/
structure TypeUse where
  target : ClassId
  line : Nat
deriving DecidableEq, Inhabited

/-- The signature and the body of a code unit.  A code unit whose linking failed has no return
type. -/
structure CodeUnit where
  returns : Option TypeRef := none
  rawReturns : Option ClassId := none
  parameters : List Param := []
  throws : List ClassId := []
  typeParameters : List VarId := []
  firstLine : Nat := 0
  accesses : List AccessId := []
  catchBlocks : List CatchBlock := []
  instanceofChecks : List TypeUse := []
  classObjects : List TypeUse := []
deriving Inhabited

/-- The kinds of code units. -/
inductive CodeKind where
  | method
  | constructor
  | staticInitializer
deriving DecidableEq, Repr, Inhabited

/-- What kind of member it is, and what belongs to the kind. -/
inductive MemberBody where
  | field (type : TypeRef) (raw : ClassId)
  | code (kind : CodeKind) (unit : CodeUnit)
deriving Inhabited

/-- A member of a class. -/
structure Member where
  id : MemberId
  owner : ClassId
  name : String
  /-- The descriptor of the class file, such as `(Ljava/lang/String;)V`. -/
  descriptor : String
  /-- `Owner.name` for a field, `Owner.name(p, q)` for a code unit. -/
  fullName : String
  modifiers : Modifiers
  annotations : List Annot
  body : MemberBody
deriving Inhabited

/-- The full name of a code unit. -/
def codeUnitName (owner name : String) (parameters : List String) : String :=
  owner ++ "." ++ name ++ "(" ++ ", ".intercalate parameters ++ ")"

/-- The full name of a field. -/
def fieldName (owner name : String) : String :=
  owner ++ "." ++ name

namespace Member

/-- Whether the compiler made the member, as it makes bridge methods. -/
def isSynthetic (m : Member) : Bool :=
  m.modifiers.has .synthetic || m.modifiers.has .bridge

/-- The kind of a code unit. -/
def codeKind? (m : Member) : Option CodeKind :=
  match m.body with
  | .code kind _ => some kind
  | .field _ _ => none

/-- Whether the member is a field. -/
def isField (m : Member) : Bool :=
  m.codeKind?.isNone

/-- Whether the member is a method. -/
def isMethod (m : Member) : Bool :=
  m.codeKind? == some .method

/-- Whether the member is a constructor. -/
def isConstructor (m : Member) : Bool :=
  m.codeKind? == some .constructor

/-- Whether the member is a static initializer. -/
def isStaticInitializer (m : Member) : Bool :=
  m.codeKind? == some .staticInitializer

/-- The code unit of a member that is not a field. -/
def codeUnit? (m : Member) : Option CodeUnit :=
  match m.body with
  | .code _ unit => some unit
  | .field _ _ => none

/-- The member with its code unit changed; a field stays as it is. -/
def modifyCodeUnit (m : Member) (change : CodeUnit → CodeUnit) : Member :=
  match m.body with
  | .code kind unit => { m with body := .code kind (change unit) }
  | .field _ _ => m

/-- The type of a field. -/
def fieldType? (m : Member) : Option TypeRef :=
  match m.body with
  | .field type _ => some type
  | .code _ _ => none

/-- The class that the type of a field erases to. -/
def rawFieldType? (m : Member) : Option ClassId :=
  match m.body with
  | .field _ raw => some raw
  | .code _ _ => none

/-- The parameters of a code unit. -/
def parameters (m : Member) : List Param :=
  (m.codeUnit?.map (·.parameters)).getD []

/-- The classes that the parameter types erase to. -/
def rawParameters (m : Member) : List ClassId :=
  m.parameters.map (·.raw)

/-- The first line of a code unit, 0 for a field. -/
def line (m : Member) : Nat :=
  (m.codeUnit?.map (·.firstLine)).getD 0

/-- The kind of the member in words. -/
def kindName (m : Member) : String :=
  match m.codeKind? with
  | none => "Field"
  | some .method => "Method"
  | some .constructor => "Constructor"
  | some .staticInitializer => "Static Initializer"

/-- The member in words, such as `Method <com.example.Foo.bar(int)>`. -/
def description (m : Member) : String :=
  m.kindName ++ " <" ++ m.fullName ++ ">"

end Member

end ClassAtlas
