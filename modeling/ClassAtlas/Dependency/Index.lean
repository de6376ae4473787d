import ClassAtlas.Dependency.Direct
import ClassAtlas.Multimap

/-!
# The index of what points at a class

A pass over the accesses notes them for the classes that they go through.  A pass over the imported
classes notes, for every class, where it occurs in a signature, in a body or as the type of an
annotation, and which dependencies lead to it.

* `ReverseIndex` — what is noted.
* `ReverseIndex.addAccess`, `ReverseIndex.addClass` — noting an access, and what a class says.
* `ReverseIndex.settle` — making the dependencies on each class distinct.
* `Atlas.reverseIndex` — the index of an atlas.
-/

namespace ClassAtlas

/-- Where an annotation stands: on which element, and at which place among the annotations of it. -/
structure AnnotRef where
  element : Element
  place : Nat
deriving DecidableEq, Repr, Inhabited

/-- Where classes occur.  A member is noted for a class as often as the class occurs there. -/
structure ReverseIndex where
  ownerAccesses : Multimap ClassId AccessId := ∅
  /-- Calls of constructors and references to them, by the full name of the target. -/
  constructorAccesses : Multimap String AccessId := ∅
  fields : Multimap ClassId MemberId := ∅
  methodParameters : Multimap ClassId MemberId := ∅
  methodReturns : Multimap ClassId MemberId := ∅
  methodThrows : Multimap ClassId MemberId := ∅
  constructorParameters : Multimap ClassId MemberId := ∅
  constructorThrows : Multimap ClassId MemberId := ∅
  annots : Multimap ClassId AnnotRef := ∅
  instanceofChecks : Multimap ClassId (MemberId × TypeUse) := ∅
  classObjects : Multimap ClassId (MemberId × TypeUse) := ∅
  dependencies : Multimap ClassId Dependency := ∅

namespace ReverseIndex

/-- Notes an access for the class that it goes through. -/
def addAccess (x : ReverseIndex) (access : Access) : ReverseIndex :=
  let x := { x with ownerAccesses := x.ownerAccesses.insert access.target.owner access.id }
  if access.target.kind.isConstructor then
    { x with constructorAccesses := x.constructorAccesses.insert access.target.fullName access.id }
  else x

/-- Notes the annotations on an element. -/
def addAnnots (x : ReverseIndex) (element : Element) (annots : List Annot) : ReverseIndex :=
  { x with annots := x.annots.insertAll (annots.zipIdx.map fun (annot, place) =>
      (annot.type, ⟨element, place⟩)) }

/-- Notes the signature of a member. -/
def addSignature (x : ReverseIndex) (m : Member) : ReverseIndex :=
  let noted (types : List ClassId) := types.map fun type => (type, m.id)
  match m.body with
  | .field _ raw => { x with fields := x.fields.insert raw m.id }
  | .code .method unit =>
    { x with
      methodParameters := x.methodParameters.insertAll (noted (unit.parameters.map (·.raw)))
      methodReturns := x.methodReturns.insertAll (noted unit.rawReturns.toList)
      methodThrows := x.methodThrows.insertAll (noted unit.throws) }
  | .code .constructor unit =>
    { x with
      constructorParameters :=
        x.constructorParameters.insertAll (noted (unit.parameters.map (·.raw)))
      constructorThrows := x.constructorThrows.insertAll (noted unit.throws) }
  | .code .staticInitializer _ => x

/-- Notes the annotations on the parameters of a member. -/
def addParameters (x : ReverseIndex) (m : Member) : ReverseIndex :=
  m.parameters.foldl (fun x p => x.addAnnots (.parameter m.id p.position) p.annotations) x

/-- Notes the classes that the body of a member uses. -/
def addBody (x : ReverseIndex) (m : Member) : ReverseIndex :=
  let noted (uses : List TypeUse) := uses.map fun use => (use.target, m.id, use)
  match m.codeUnit? with
  | some unit =>
    { x with
      instanceofChecks := x.instanceofChecks.insertAll (noted unit.instanceofChecks)
      classObjects := x.classObjects.insertAll (noted unit.classObjects) }
  | none => x

/-- Notes what a member says. -/
def addMember (x : ReverseIndex) (m : Member) : ReverseIndex :=
  (((x.addAnnots (.member m.id) m.annotations).addSignature m).addParameters m).addBody m

/-- Notes a dependency for its target.  A dependency on an array is also one on the class inside of
it, unless that is where it starts, or is primitive. -/
def addDependency (a : Atlas) (x : ReverseIndex) (d : Dependency) : ReverseIndex :=
  let x := { x with dependencies := x.dependencies.insert d.target d }
  let component := a.baseComponent d.target
  if component ≠ d.target ∧ component ≠ d.origin ∧ (a.cls component).isPrimitive = false then
    { x with dependencies := x.dependencies.insert component d }
  else x

/-- Notes what a class and its members say. -/
def addElements (a : Atlas) (x : ReverseIndex) (id : ClassId) : ReverseIndex :=
  let c := a.cls id
  c.members.foldl (fun x m => x.addMember (a.member m)) (x.addAnnots (.cls c.id) c.annotations)

/-- Notes what a class says and what it depends on. -/
def addClass (a : Atlas) (x : ReverseIndex) (id : ClassId) : ReverseIndex :=
  (a.dependenciesFrom id).foldl (addDependency a) (addElements a x id)

/-- Puts the dependencies on each class in order, each once. -/
def settle (x : ReverseIndex) : ReverseIndex :=
  { x with dependencies := x.dependencies.mapLists Dependency.set }

end ReverseIndex

/-- The index of the accesses and the imported classes. -/
def Atlas.reverseIndex (a : Atlas) : ReverseIndex :=
  (a.imported.toList.foldl (ReverseIndex.addClass a)
    (a.accesses.toList.foldl ReverseIndex.addAccess {})).settle

end ClassAtlas
