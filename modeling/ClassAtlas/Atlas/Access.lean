import ClassAtlas.Atlas.Ids
import ClassAtlas.Record.CodeUnit

/-!
# Accesses

What a code unit does with members: accessing fields, calling and referring to methods and
constructors.

* `Target` — what an access points at, as the class file has it.
* `Access` — an access with its origin and line.
-/

namespace ClassAtlas

/-- The kind of member a target points at, and whether only a reference to it is made. -/
inductive TargetKind where
  | field
  | method
  | constructor
  | methodReference
  | constructorReference
deriving DecidableEq, Repr, Inhabited

/-- Whether it is a constructor, called or referred to. -/
def TargetKind.isConstructor : TargetKind → Bool
  | .constructor | .constructorReference => true
  | _ => false

/-- The word for a kind of targets. -/
def TargetKind.text : TargetKind → String
  | .field => "field"
  | .method => "method"
  | .constructor => "constructor"
  | .methodReference => "method_reference"
  | .constructorReference => "constructor_reference"

/-- The kind of an access. -/
inductive AccessKind where
  | fieldAccess (use : FieldUse)
  | methodCall
  | constructorCall
  | methodReference
  | constructorReference
deriving DecidableEq, Repr, Hashable, Inhabited

namespace AccessKind

/-- The kind of its target. -/
def targetKind : AccessKind → TargetKind
  | .fieldAccess _ => .field
  | .methodCall => .method
  | .constructorCall => .constructor
  | .methodReference => .methodReference
  | .constructorReference => .constructorReference

/-- What the origin does with the target. -/
def verb : AccessKind → String
  | .fieldAccess .get => "gets field"
  | .fieldAccess .set => "sets field"
  | .fieldAccess .unknown => "accesses field"
  | .methodCall => "calls method"
  | .constructorCall => "calls constructor"
  | .methodReference => "references method"
  | .constructorReference => "references constructor"

/-- Whether it is an access to a field. -/
def isFieldAccess : AccessKind → Bool
  | .fieldAccess _ => true
  | _ => false

/-- Whether it is a call. -/
def isCall : AccessKind → Bool
  | .methodCall | .constructorCall => true
  | _ => false

/-- Whether it is a reference to a code unit. -/
def isReference : AccessKind → Bool
  | .methodReference | .constructorReference => true
  | _ => false

end AccessKind

/-- What an access points at: owner, name and signature as recorded, not the declared member. -/
structure Target where
  kind : TargetKind
  owner : ClassId
  name : String
  parameters : List ClassId
  /-- The type of a field, or the return type. -/
  returns : ClassId
  fullName : String
deriving Inhabited

/-- The target in words. -/
def Target.description (t : Target) : String :=
  "<" ++ t.fullName ++ ">"

/-- Two targets count as the same if their full names are equal. -/
def Target.sameAs (t u : Target) : Bool :=
  t.fullName == u.fullName

/-- An access made from a code unit. -/
structure Access where
  id : AccessId
  kind : AccessKind
  origin : MemberId
  originFullName : String
  target : Target
  line : Nat
deriving Inhabited

/-- Two accesses count as the same if origin, target and line are the same. -/
def Access.sameAs (a b : Access) : Bool :=
  a.originFullName == b.originFullName && a.target.fullName == b.target.fullName &&
    a.line == b.line

end ClassAtlas
