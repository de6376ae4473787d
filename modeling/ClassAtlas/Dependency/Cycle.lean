import ClassAtlas.Dependency.Direct
import ClassAtlas.Search.Components

/-!
# Cycles of dependencies

A cycle is a largest set of two or more imported classes that all depend on each other, directly or
by way of others.

* `Atlas.cycles` — all cycles, the shortest first.
* `Atlas.cycleReport` — the cycles with a summary, and how sure the answer is: a class without a
  record could depend on imported classes, and nobody would know.
-/

namespace ClassAtlas

/-- How sure an answer is. -/
inductive Confidence where
  | high
  | certain
deriving DecidableEq, Repr, Inhabited

/-- The word for a confidence. -/
def Confidence.text : Confidence → String
  | .high => "high"
  | .certain => "certain"

/-- What is found about cycles. -/
structure CycleReport where
  /-- The classes of each cycle. -/
  cycles : List (List ClassId)
  confidence : Confidence
  /-- The number of imported classes. -/
  total : Nat

namespace CycleReport

/-- The number of classes in cycles. -/
def involved (r : CycleReport) : Nat :=
  r.cycles.flatten.length

/-- The length of the shortest cycle, 0 if there is none. -/
def shortest (r : CycleReport) : Nat :=
  (r.cycles.head?.map List.length).getD 0

/-- The length of the longest cycle, 0 if there is none. -/
def longest (r : CycleReport) : Nat :=
  (r.cycles.map List.length).foldl max 0

end CycleReport

namespace Atlas

/-- The classes that an imported class depends on, arrays opened. -/
def dependees (a : Atlas) (id : ClassId) : List ClassId :=
  ((a.dependenciesFrom id).map fun d => a.baseComponent d.target).eraseDups

/-- The imported classes among the classes that a class depends on, other than itself, in ascending
order. -/
def importedDependees (a : Atlas) (id : ClassId) : List ClassId :=
  ((a.dependees id).filter fun c => (a.cls c).imported && c != id).mergeSort
    fun c d => c.index ≤ d.index

/-- Whether a package belongs to the platform. -/
def isPlatformPackage (name : String) : Bool :=
  name == "java" || name.startsWith "java." || name.startsWith "javax."

/-- Whether a class is a stub whose own dependencies would matter. -/
def isForeignStub (c : ClassNode) : Bool :=
  !c.imported && !c.isPrimitive && !isPlatformPackage c.packageName

/-- The classes in ascending order of their names. -/
def sortByName (a : Atlas) (ids : List ClassId) : List ClassId :=
  ids.mergeSort fun c d => (a.cls c).name ≤ (a.cls d).name

/-- The order of cycles: by length, then by the name of the first class. -/
def cycleLE (a : Atlas) (c d : List ClassId) : Bool :=
  let first (ids : List ClassId) := (ids.head?.map fun id => (a.cls id).name).getD ""
  c.length < d.length || (c.length == d.length && first c ≤ first d)

/-- All cycles, the shortest first. -/
def cycles (a : Atlas) : List (List ClassId) :=
  let all := Search.components a.imported.toList a.importedDependees
  ((all.filter fun c => 1 < c.length).map a.sortByName).mergeSort a.cycleLE

/-- The cycles with a summary. -/
def cycleReport (a : Atlas) : CycleReport :=
  let hidden := a.imported.toList.any fun id =>
    (a.dependees id).any fun c => isForeignStub (a.cls c)
  { cycles := a.cycles
    confidence := if hidden then .high else .certain
    total := a.imported.size }

end Atlas

end ClassAtlas
