/-!
# Positions

Classes, members, accesses and type variables are kept in one array each and refer to each other by
position.  Each kind of position is a type of its own.
-/

namespace ClassAtlas

/-- The position of a class. -/
structure ClassId where
  index : Nat
deriving DecidableEq, Repr, Hashable, Inhabited

/-- The position of a field, method, constructor or static initializer. -/
structure MemberId where
  index : Nat
deriving DecidableEq, Repr, Hashable, Inhabited

/-- The position of an access. -/
structure AccessId where
  index : Nat
deriving DecidableEq, Repr, Hashable, Inhabited

/-- The position of a type variable. -/
structure VarId where
  index : Nat
deriving DecidableEq, Repr, Hashable, Inhabited

end ClassAtlas
