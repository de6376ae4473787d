import ClassAtlas.Atlas.Members

/-!
# Resolving targets

The class file names the class through which a member is accessed, not the one that declares it.
Resolution finds the declared member the way the virtual machine does.

* `Atlas.resolve?` — the member that a target points at, if it was imported.
* `Target.ofMember?` — the target of a direct access to a member.
-/

namespace ClassAtlas

namespace Atlas

/-- Whether a member has exactly the parameters of a target. -/
def matchesSignature (a : Atlas) (t : Target) (m : MemberId) : Bool :=
  (a.member m).rawParameters == t.parameters

/-- The declared methods with the name and the parameters of a target. -/
def matchingMethods (a : Atlas) (t : Target) (owner : ClassId) : List MemberId :=
  (a.methods owner).filter fun m => (a.member m).name == t.name && a.matchesSignature t m

/-- A field is looked up in the class, then above each interface, then above the superclass. -/
def resolveField? (a : Atlas) (t : Target) : Option MemberId :=
  (a.fieldLookupOrder t.owner).findSome? fun c => a.field? c t.name

/-- A constructor is looked up in the class and its superclasses, by parameters. -/
def resolveConstructor? (a : Atlas) (t : Target) : Option MemberId :=
  (a.lineage t.owner).findSome? fun c =>
    a.preferred? ((a.constructors c).filter (a.matchesSignature t))

/-- A method of an interface, unless another candidate is declared by an interface below that
one. -/
def resolveInterfaceMethod? (a : Atlas) (t : Target) : Option MemberId :=
  let candidates := (a.allInterfaces t.owner).flatMap (a.matchingMethods t)
  let owners := candidates.map fun m => (a.member m).owner
  a.preferred? (candidates.filter fun m =>
    let owner := (a.member m).owner
    !owners.any fun other => other != owner && (a.allInterfaces other).contains owner)

/-- A method is looked up in the class and its superclasses, then in the interfaces. -/
def resolveMethod? (a : Atlas) (t : Target) : Option MemberId :=
  ((a.lineage t.owner).findSome? fun c => a.preferred? (a.matchingMethods t c)) <|>
    a.resolveInterfaceMethod? t

/-- The declared member that a target points at. -/
def resolve? (a : Atlas) (t : Target) : Option MemberId :=
  match t.kind with
  | .field => a.resolveField? t
  | .constructor | .constructorReference => a.resolveConstructor? t
  | .method | .methodReference => a.resolveMethod? t

end Atlas

/-- The target of a direct access to a member.  Nothing points at a static initializer. -/
def Target.ofMember? (a : Atlas) (id : MemberId) : Option Target := do
  let m := a.member id
  let kind ←
    match m.codeKind? with
    | none => some TargetKind.field
    | some .constructor => some .constructor
    | some .method => some .method
    | some .staticInitializer => none
  return {
    kind := kind
    owner := m.owner
    name := m.name
    parameters := m.rawParameters
    returns := (m.rawFieldType? <|> m.codeUnit?.bind (·.rawReturns)).getD Atlas.object
    fullName := m.fullName }

end ClassAtlas
