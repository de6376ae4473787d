import ClassAtlas.Atlas.Types
import ClassAtlas.Dependency.Basic

/-!
# Direct dependencies

The dependencies of a class on the classes that it mentions.  A class does not depend on itself, and
nothing depends on a primitive type.

* `Atlas.dependenciesFrom` — all dependencies of a class.
-/

namespace ClassAtlas.Atlas

/-- The dependency of `origin` on `target`, unless there is none. -/
def dependOn (a : Atlas) (origin target : ClassId) (kind : DependencyKind) (line : Nat)
    (words : String) (access : Option AccessId) : List Dependency :=
  if target = origin ∨ (a.cls target).isPrimitive then []
  else
    [{ origin := origin
       target := target
       kind := kind
       line := line
       description := words ++ " in " ++ a.location origin line
       access := access }]

/-- A dependency that is said of `subject`, such as `Class <a.A> extends class <b.B>`. -/
def mention (a : Atlas) (origin : ClassId) (kind : DependencyKind) (line : Nat)
    (subject : String) (target : ClassId) : List Dependency :=
  a.dependOn origin target kind line (subject ++ " <" ++ (a.cls target).name ++ ">") none

/-- The classes in the arguments of a type. -/
def argumentDependencies (a : Atlas) (origin : ClassId) (line : Nat) (subject role : String)
    (type : TypeRef) : List Dependency :=
  (a.argumentClasses type).flatMap <| a.mention origin .typeArgument line
    (subject ++ " has " ++ role ++ " <" ++ a.typeName type ++
      "> with type argument depending on")

/-- The classes in the bounds of type parameters. -/
def boundDependencies (a : Atlas) (origin : ClassId) (line : Nat) (subject : String)
    (parameters : List VarId) : List Dependency :=
  parameters.flatMap fun id =>
    let declared := a.typeVar id
    declared.bounds.flatMap fun bound =>
      (a.involvedClasses bound).flatMap <| a.mention origin .typeParameterBound line
        (subject ++ " has type parameter '" ++ declared.name ++ "' depending on")

/-- The types of annotations and the classes in their values. -/
def annotDependencies (a : Atlas) (origin : ClassId) (line : Nat) (subject : String)
    (annotations : List Annot) : List Dependency :=
  annotations.flatMap fun annot =>
    a.mention origin .annotated line (subject ++ " is annotated with") annot.type ++
      annot.memberTypes.flatMap
        (a.mention origin .annotationMember line (subject ++ " has annotation member of type"))

/-- The superclass and the interfaces. -/
def inheritanceDependencies (a : Atlas) (origin : ClassId) : List Dependency :=
  let c := a.cls origin
  let implements :=
    if c.kind.isInterface then "Interface <" ++ c.name ++ "> extends interface"
    else "Class <" ++ c.name ++ "> implements interface"
  (c.superclass.toList.flatMap fun type =>
      a.mention origin .inheritance 0 (c.description ++ " extends class") (a.erasure type) ++
        a.argumentDependencies origin 0 c.description "generic superclass" type) ++
    (c.interfaces.flatMap fun type =>
      a.mention origin .inheritance 0 implements (a.erasure type) ++
        a.argumentDependencies origin 0 c.description "generic interface" type)

/-- The type and the annotations of a field. -/
def fieldDependencies (a : Atlas) (origin : ClassId) (m : Member) (type : TypeRef)
    (raw : ClassId) : List Dependency :=
  a.mention origin .fieldType 0 (m.description ++ " has type") raw ++
    a.argumentDependencies origin 0 m.description "generic type" type ++
    a.annotDependencies origin 0 m.description m.annotations

/-- The words with the first letter in lower case. -/
def lowerFirst (words : String) : String :=
  match words.toList with
  | [] => ""
  | c :: rest => String.ofList (c.toLower :: rest)

/-- The type and the annotations of a parameter. -/
def parameterDependencies (a : Atlas) (origin : ClassId) (line : Nat) (subject : String)
    (p : Param) : List Dependency :=
  a.mention origin .parameterType line (subject ++ " has parameter of type") p.raw ++
    a.argumentDependencies origin line subject "generic parameter type" p.type ++
    a.annotDependencies origin line
      ("Parameter <" ++ a.typeName p.type ++ "> of " ++ lowerFirst subject) p.annotations

/-- The return type of a method. -/
def returnDependencies (a : Atlas) (origin : ClassId) (m : Member) (unit : CodeUnit) :
    List Dependency :=
  match m.isMethod, unit.returns, unit.rawReturns with
  | true, some type, some raw =>
    a.mention origin .returnType unit.firstLine (m.description ++ " has return type") raw ++
      a.argumentDependencies origin unit.firstLine m.description "generic return type" type
  | _, _, _ => []

/-- An access of a code unit. -/
def accessDependencies (a : Atlas) (origin : ClassId) (m : Member) (id : AccessId) :
    List Dependency :=
  let access := a.access id
  a.dependOn origin access.target.owner .access access.line
    (m.description ++ " " ++ access.kind.verb ++ " " ++ access.target.description) (some id)

/-- The signature and the body of a code unit. -/
def codeUnitDependencies (a : Atlas) (origin : ClassId) (m : Member) (unit : CodeUnit) :
    List Dependency :=
  let subject := m.description
  let line := unit.firstLine
  unit.accesses.flatMap (a.accessDependencies origin m) ++
    a.returnDependencies origin m unit ++
    unit.parameters.flatMap (a.parameterDependencies origin line subject) ++
    unit.throws.flatMap (a.mention origin .throws line (subject ++ " throws type")) ++
    (unit.catchBlocks.flatMap fun block =>
      block.types.flatMap
        (a.mention origin .catchClause block.line (subject ++ " catches type"))) ++
    (unit.instanceofChecks.flatMap fun use =>
      a.mention origin .instanceofCheck use.line (subject ++ " checks instanceof") use.target) ++
    (unit.classObjects.flatMap fun use =>
      a.mention origin .classObject use.line (subject ++ " references class object")
        use.target) ++
    a.boundDependencies origin line subject unit.typeParameters ++
    a.annotDependencies origin line subject m.annotations

/-- What a member mentions. -/
def memberDependencies (a : Atlas) (origin : ClassId) (id : MemberId) : List Dependency :=
  let m := a.member id
  match m.body with
  | .field type raw => a.fieldDependencies origin m type raw
  | .code _ unit => a.codeUnitDependencies origin m unit

/-- Everything that a class mentions, as it comes. -/
def mentions (a : Atlas) (origin : ClassId) : List Dependency :=
  let c := a.cls origin
  a.inheritanceDependencies origin ++
    a.boundDependencies origin 0 c.description c.typeParameters ++
    a.annotDependencies origin 0 c.description c.annotations ++
    c.members.flatMap (a.memberDependencies origin)

/-- The dependencies of a class, in order. -/
def dependenciesFrom (a : Atlas) (origin : ClassId) : List Dependency :=
  Dependency.set (a.mentions origin)

/-- The dependencies of all imported classes. -/
def allDependencies (a : Atlas) : List Dependency :=
  a.imported.toList.flatMap a.dependenciesFrom

end ClassAtlas.Atlas
