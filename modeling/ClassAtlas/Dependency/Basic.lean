import ClassAtlas.Atlas.Basic
import ClassAtlas.Distinct

/-!
# Dependencies

A dependency leads from a class to another class and says where it comes from.

* `Dependency` — a dependency in words, with its line.
* `Dependency.set` — the dependencies of a list in order, each once.
-/

namespace ClassAtlas

/-- What gives rise to a dependency. -/
inductive DependencyKind where
  | access
  | inheritance
  | fieldType
  | returnType
  | parameterType
  | throws
  | catchClause
  | annotated
  | annotationMember
  | instanceofCheck
  | classObject
  | typeArgument
  | typeParameterBound
deriving DecidableEq, Repr, Inhabited

/-- The word for a kind of dependencies. -/
def DependencyKind.text : DependencyKind → String
  | .access => "access"
  | .inheritance => "inheritance"
  | .fieldType => "field_type"
  | .returnType => "return_type"
  | .parameterType => "parameter_type"
  | .throws => "throws"
  | .catchClause => "catch_clause"
  | .annotated => "annotation"
  | .annotationMember => "annotation_member"
  | .instanceofCheck => "instanceof_check"
  | .classObject => "class_object_reference"
  | .typeArgument => "type_argument"
  | .typeParameterBound => "type_parameter_bound"

/-- A dependency of a class on another one. -/
structure Dependency where
  origin : ClassId
  target : ClassId
  kind : DependencyKind
  line : Nat
  /-- The dependency in words, with its place in the source. -/
  description : String
  /-- The access it comes from. -/
  access : Option AccessId
deriving DecidableEq, Repr, Inhabited

namespace Dependency

/-- Dependencies with the same key count as one. -/
def key (d : Dependency) : Nat × String × ClassId × ClassId :=
  (d.line, d.description, d.origin, d.target)

/-- The order of dependencies: by line, then by their words, then by origin and target. -/
def order (d e : Dependency) : Ordering :=
  (compare d.line e.line).then <|
    (compare d.description e.description).then <|
      (compare d.origin.index e.origin.index).then (compare d.target.index e.target.index)

/-- The dependencies of a list in ascending order.  Of several that count as one, the first is
kept. -/
def set (ds : List Dependency) : List Dependency :=
  (distinctBy key ds).mergeSort fun d e => (order d e).isLE

end Dependency

/-- An annotated element in words. -/
def Atlas.describeElement (a : Atlas) : Element → String
  | .cls id => (a.cls id).description
  | .member id => (a.member id).description
  | .parameter member position =>
    "Parameter " ++ toString position ++ " of " ++ (a.member member).description

/-- The member that a dependency comes from, if it comes from an access. -/
def Atlas.originMember? (a : Atlas) (d : Dependency) : Option MemberId :=
  d.access.map fun id => (a.access id).origin

end ClassAtlas
