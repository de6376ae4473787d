/-!
# Phases of linking

A batch is linked in phases, each for all of its classes before the next begins: the later ones look
at what the earlier ones recorded of other classes.
-/

namespace ClassAtlas

/-- The phase a linker has reached. -/
inductive Phase where
  | created
  | hierarchy
  | members
  | accesses
deriving DecidableEq, Repr, Inhabited

/-- The word for a phase. -/
def Phase.text : Phase → String
  | .created => "created"
  | .hierarchy => "hierarchy"
  | .members => "members"
  | .accesses => "accesses"

end ClassAtlas
