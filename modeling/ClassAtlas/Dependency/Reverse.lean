import ClassAtlas.Dependency.Index
import ClassAtlas.Resolution

/-!
# What points at a class or a member

The dependencies, accesses, signatures and annotations of imported classes that lead to a given
class or member.

* `Atlas.dependenciesTo` — the dependencies on a class.
* `Atlas.accessesTo` — the accesses that resolve to a member.
* `Atlas.annotsOfType` and the like — where a class is used.
-/

namespace ClassAtlas.Atlas

/-! ## Dependencies -/

/-- The dependencies of imported classes on a class. -/
def dependenciesTo (a : Atlas) (target : ClassId) : List Dependency :=
  a.reverseIndex.dependencies.lookup target

/-! ## Accesses -/

/-- Whether an access is of a kind that leads to members of this kind. -/
def leadsTo (kind : TargetKind) (m : Member) : Bool :=
  match m.codeKind?, kind with
  | none, .field => true
  | some .method, .method | some .method, .methodReference => true
  | some .constructor, .constructor | some .constructor, .constructorReference => true
  | _, _ => false

/-- The accesses that may resolve to a member, each once and in order: those that name it on its
owner or on a class below, as a call there may still go to the member, and for a constructor those
that give its full name. -/
def candidates (a : Atlas) (index : ReverseIndex) (m : Member) : List AccessId :=
  let named := (m.owner :: a.allSubclasses m.owner).flatMap fun owner =>
    (index.ownerAccesses.lookup owner).filter fun id => (a.access id).target.name == m.name
  let constructed := if m.isConstructor then index.constructorAccesses.lookup m.fullName else []
  (distinctBy (·.index) (named ++ constructed)).mergeSort fun i j => i.index ≤ j.index

/-- The accesses that resolve to a member, in order. -/
def accessesTo (a : Atlas) (id : MemberId) : List Access :=
  let m := a.member id
  ((a.candidates a.reverseIndex m).map a.access).filter fun access =>
    leadsTo access.kind.targetKind m && a.resolve? access.target == some id

/-- The accesses through a class, whether they resolve or not. -/
def accessesToClass (a : Atlas) (id : ClassId) : List Access :=
  (a.reverseIndex.ownerAccesses.lookup id).map a.access

/-! ## Signatures -/

/-- The fields whose type erases to a class. -/
def fieldsOfType (a : Atlas) (target : ClassId) : List MemberId :=
  a.reverseIndex.fields.lookup target

/-- The methods with a parameter whose type erases to a class, once for each such parameter. -/
def methodsWithParameter (a : Atlas) (target : ClassId) : List MemberId :=
  a.reverseIndex.methodParameters.lookup target

/-- The methods whose return type erases to a class. -/
def methodsReturning (a : Atlas) (target : ClassId) : List MemberId :=
  a.reverseIndex.methodReturns.lookup target

/-- The methods that declare to throw a class. -/
def methodsThrowing (a : Atlas) (target : ClassId) : List MemberId :=
  a.reverseIndex.methodThrows.lookup target

/-- The constructors with a parameter whose type erases to a class, once for each such parameter. -/
def constructorsWithParameter (a : Atlas) (target : ClassId) : List MemberId :=
  a.reverseIndex.constructorParameters.lookup target

/-- The constructors that declare to throw a class. -/
def constructorsThrowing (a : Atlas) (target : ClassId) : List MemberId :=
  a.reverseIndex.constructorThrows.lookup target

/-! ## Bodies -/

/-- The `instanceof` checks for a class. -/
def instanceofChecksOf (a : Atlas) (target : ClassId) : List (MemberId × TypeUse) :=
  a.reverseIndex.instanceofChecks.lookup target

/-- The class literals of a class. -/
def classObjectsOf (a : Atlas) (target : ClassId) : List (MemberId × TypeUse) :=
  a.reverseIndex.classObjects.lookup target

/-! ## Annotations -/

/-- The annotations on an element. -/
def annotsOn (a : Atlas) : Element → List Annot
  | .cls id => (a.cls id).annotations
  | .member id => (a.member id).annotations
  | .parameter member position =>
    ((a.member member).parameters[position]?.map (·.annotations)).getD []

/-- The elements of a class: the class, then each member with its parameters. -/
def elementsOf (a : Atlas) (id : ClassId) : List Element :=
  .cls id :: (a.cls id).members.flatMap fun m =>
    .member m :: (a.member m).parameters.map fun p => .parameter m p.position

/-- The annotations on the elements of a class. -/
def annotsWithin (a : Atlas) (id : ClassId) : List (Element × Annot) :=
  (a.elementsOf id).flatMap fun element => (a.annotsOn element).map fun annot => (element, annot)

/-- Where the annotations of a type stand. -/
def annotRefs (a : Atlas) (type : ClassId) : List AnnotRef :=
  a.reverseIndex.annots.lookup type

/-- The annotation that stands somewhere. -/
def annotAt? (a : Atlas) (ref : AnnotRef) : Option Annot :=
  (a.annotsOn ref.element)[ref.place]?

/-- The annotations of a type on the elements of imported classes, each with its place among the
annotations of the element. -/
def annotsOfType (a : Atlas) (type : ClassId) : List (Element × Nat × Annot) :=
  (a.annotRefs type).filterMap fun ref =>
    (a.annotAt? ref).map fun annot => (ref.element, ref.place, annot)

end ClassAtlas.Atlas
