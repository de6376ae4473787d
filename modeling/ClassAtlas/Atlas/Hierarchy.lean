import ClassAtlas.Atlas.Basic
import ClassAtlas.Search

/-!
# The class hierarchy

The classes above and below a class.  A hierarchy read from records may be cyclic; every list here
is finite all the same, and holds no class twice.

* `Atlas.superclasses`, `Atlas.lineage` — the chain of superclasses.
* `Atlas.allInterfaces` — the interfaces of a class, of its superclasses and of these interfaces.
* `Atlas.allSubclasses` — the classes below a class.
* `Atlas.assignableTo` — the classes that a class can stand for.
* `Atlas.fieldLookupOrder` — the classes in which a field is looked up, in order.
-/

namespace ClassAtlas.Atlas

/-- The class, its superclass, the superclass of that, and so on. -/
def lineage (a : Atlas) (id : ClassId) : List ClassId :=
  Search.depthFirst (fun c => (a.cls c).rawSuperclass.toList) a.classes.size id

/-- The superclasses of a class, the nearest first. -/
def superclasses (a : Atlas) (id : ClassId) : List ClassId :=
  (a.lineage id).tail

/-- The interfaces of a class, direct or not, breadth first. -/
def allInterfaces (a : Atlas) (id : ClassId) : List ClassId :=
  Search.breadthFirst (fun c => (a.cls c).rawInterfaces) a.classes.size [id]
    ((a.lineage id).flatMap fun c => (a.cls c).rawInterfaces)

/-- The subclasses and implementations of a class, direct or not, depth first. -/
def allSubclasses (a : Atlas) (id : ClassId) : List ClassId :=
  (Search.depthFirst (fun c => (a.cls c).subclasses) a.classes.size id).tail

/-- The class, its superclasses and its interfaces. -/
def assignableTo (a : Atlas) (id : ClassId) : List ClassId :=
  a.lineage id ++ a.allInterfaces id

/-- Whether the class can stand for a class of this name. -/
def isAssignableTo (a : Atlas) (id : ClassId) (name : String) : Bool :=
  (a.assignableTo id).any fun c => (a.cls c).name == name

/-- Whether a class of this name can stand for the class. -/
def isAssignableFrom (a : Atlas) (id : ClassId) (name : String) : Bool :=
  (a.get? name).any fun other => (a.assignableTo other).contains id

/-- The class, then what is above each of its interfaces, then what is above its superclass. -/
def fieldLookupOrder (a : Atlas) (id : ClassId) : List ClassId :=
  Search.depthFirst (fun c => (a.cls c).rawInterfaces ++ (a.cls c).rawSuperclass.toList)
    a.classes.size id

end ClassAtlas.Atlas
