import ClassAtlas.Dependency.Reverse
import ClassAtlas.Search.Walk

/-!
# Transitive dependencies

The dependencies along all chains that start or end at a class.  A chain that reaches an array goes
on from the class inside of it.
-/

namespace ClassAtlas.Atlas

/-- All dependencies that are met on the way from a class, given the dependencies found at a class
and the class that each of them leads to. -/
def follow (a : Atlas) (found : ClassId → List Dependency) (next : Dependency → ClassId)
    (start : ClassId) : List Dependency :=
  Dependency.set
    (Search.edgesFrom found (fun d => a.baseComponent (next d)) a.classes.size start)

/-- The dependencies of a class, of their targets, and so on. -/
def transitiveFrom (a : Atlas) (id : ClassId) : List Dependency :=
  a.follow a.dependenciesFrom (·.target) id

/-- The dependencies on a class, on their origins, and so on. -/
def transitiveTo (a : Atlas) (id : ClassId) : List Dependency :=
  let index := a.reverseIndex
  a.follow index.dependencies.lookup (·.origin) id

end ClassAtlas.Atlas
