import ClassAtlas.Atlas.Ids

/-!
# Linked types

A type in a signature, with classes and type variables by position.  Since a variable is only a
position, a bound may mention the variable itself, as in `T extends Comparable<T>`.
-/

namespace ClassAtlas

/-- A type. -/
inductive TypeRef where
  | cls (id : ClassId)
  | parameterized (raw : ClassId) (arguments : List TypeRef)
  | variable (id : VarId)
  | wildcard (upper lower : List TypeRef)
  /-- An array with a generic component, and the array class it erases to. -/
  | genericArray (component : TypeRef) (erasure : ClassId)
deriving Inhabited

namespace TypeRef

/-- Whether the type is more than a class. -/
def isGeneric : TypeRef → Bool
  | .cls _ => false
  | _ => true

/-- The class of a class type or of a parameterized type. -/
def rawClass? : TypeRef → Option ClassId
  | .cls id => some id
  | .parameterized raw _ => some raw
  | _ => none

end TypeRef

/-- What declares a type variable. -/
inductive VarOwner where
  | cls (id : ClassId)
  | codeUnit (id : MemberId)
deriving DecidableEq, Repr, Hashable, Inhabited

/-- A type variable. -/
structure TypeVar where
  id : VarId
  name : String
  owner : VarOwner
  bounds : List TypeRef
deriving Inhabited

end ClassAtlas
