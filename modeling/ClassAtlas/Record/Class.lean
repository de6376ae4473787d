import ClassAtlas.Record.CodeUnit

/-!
# Classes as recorded

One record for each class that an importer has read.  Records refer to other classes by name only.
-/

namespace ClassAtlas

/-- The kind of a class. -/
inductive ClassKind where
  | cls
  | interface
  | enum
  /-- An annotation type. -/
  | annotationType
  | record
deriving DecidableEq, Repr, Inhabited

namespace ClassKind

/-- All kinds of classes. -/
def all : List ClassKind :=
  [.cls, .interface, .enum, .annotationType, .record]

/-- The word for a kind. -/
def text : ClassKind → String
  | .cls => "class"
  | .interface => "interface"
  | .enum => "enum"
  | .annotationType => "annotation"
  | .record => "record"

/-- Whether classes of the kind are interfaces; annotation types are. -/
def isInterface : ClassKind → Bool
  | .interface | .annotationType => true
  | _ => false

end ClassKind

namespace Record

/-- Where the code of a class was read from, and its source file if that is known. -/
structure Origin where
  uri : String
  fileName : Option String := none
deriving DecidableEq, Inhabited

/-- What is known about a class before anything is linked. -/
structure Header where
  name : String
  kind : ClassKind
  modifiers : Modifiers
  source : Option Origin
deriving Inhabited

/-- A class. -/
structure Class where
  name : String
  kind : ClassKind := .cls
  modifiers : Modifiers := .none
  superclass : Option TypeSig := none
  interfaces : List TypeSig := []
  typeParameters : List TypeParam := []
  enclosingClass : Option String := none
  source : Option Origin := none
  annotations : List Annot := []
  fields : List Field := []
  methods : List CodeUnit := []
  constructors : List CodeUnit := []
  staticInitializer : Option CodeUnit := none
deriving Inhabited

namespace Class

/-- Whether the class is an interface. -/
def isInterface (c : Class) : Bool :=
  c.kind.isInterface

/-- The superclass: the recorded one, or `java.lang.Object`, which interfaces and that class itself
do not have. -/
def effectiveSuperclass (c : Class) : Option TypeSig :=
  match c.superclass with
  | some sig => some sig
  | none =>
    if c.isInterface || c.name == objectClassName then none else some (.cls objectClassName)

/-- The part of the record that linking starts from. -/
def header (c : Class) : Header :=
  ⟨c.name, c.kind, c.modifiers, c.source⟩

/-- All code units: constructors, methods, static initializer. -/
def codeUnits (c : Class) : List CodeUnit :=
  c.constructors ++ c.methods ++ c.staticInitializer.toList

end Class

end Record

end ClassAtlas
