import ClassAtlas.Atlas.Hierarchy

/-!
# The members of a class

Declared members by kind, inherited ones, and looking members up by name and signature.

* `Atlas.fields`, `Atlas.methods`, `Atlas.constructors`, `Atlas.codeUnits` — what a class declares.
* `Atlas.allFields`, `Atlas.allMethods`, `Atlas.allConstructors` — with what it inherits.
* `Atlas.field?`, `Atlas.method?`, `Atlas.constructor?` — looking up.
* `Atlas.preferred?` — which of several members with the same signature is meant.
-/

namespace ClassAtlas.Atlas

/-! ## Declared members -/

/-- The declared members with a property. -/
def declared (a : Atlas) (id : ClassId) (wanted : Member → Bool) : List MemberId :=
  (a.cls id).members.filter fun m => wanted (a.member m)

/-- The declared fields. -/
def fields (a : Atlas) (id : ClassId) : List MemberId :=
  a.declared id Member.isField

/-- The declared methods. -/
def methods (a : Atlas) (id : ClassId) : List MemberId :=
  a.declared id Member.isMethod

/-- The declared constructors. -/
def constructors (a : Atlas) (id : ClassId) : List MemberId :=
  a.declared id Member.isConstructor

/-- The declared code units. -/
def codeUnits (a : Atlas) (id : ClassId) : List MemberId :=
  a.declared id fun m => m.codeUnit?.isSome

/-- The first static initializer. -/
def staticInitializer? (a : Atlas) (id : ClassId) : Option MemberId :=
  (a.declared id Member.isStaticInitializer).head?

/-- The enum constants: fields of the class's own type that are marked as such. -/
def enumConstants (a : Atlas) (id : ClassId) : List MemberId :=
  a.declared id fun m => m.isField && m.modifiers.has .enum && m.rawFieldType? == some id

/-! ## Inherited members -/

/-- The fields of a class and of everything above it, in the order of field lookup. -/
def allFields (a : Atlas) (id : ClassId) : List MemberId :=
  (a.fieldLookupOrder id).flatMap a.fields

/-- The methods of a class and its superclasses, then of its interfaces. -/
def allMethods (a : Atlas) (id : ClassId) : List MemberId :=
  (a.assignableTo id).flatMap a.methods

/-- The constructors of a class and its superclasses. -/
def allConstructors (a : Atlas) (id : ClassId) : List MemberId :=
  (a.lineage id).flatMap a.constructors

/-- All fields, methods and constructors. -/
def allMembers (a : Atlas) (id : ClassId) : List MemberId :=
  a.allFields id ++ a.allMethods id ++ a.allConstructors id

/-! ## Looking up -/

/-- Whether `m` comes strictly before `n` where both would do: a member of the source before one
that the compiler made, then by full name, then by descriptor. -/
def precedes (m n : Member) : Bool :=
  if m.isSynthetic != n.isSynthetic then n.isSynthetic
  else if m.fullName != n.fullName then m.fullName < n.fullName
  else m.descriptor < n.descriptor

/-- The first of the candidates that no other one precedes. -/
def preferred? (a : Atlas) : List MemberId → Option MemberId
  | [] => none
  | m :: rest => some (rest.foldl (fun best n =>
      if precedes (a.member n) (a.member best) then n else best) m)

/-- Whether the parameters of a member have these names, binary or canonical. -/
def hasParameters (a : Atlas) (m : Member) (names : List String) : Bool :=
  m.rawParameters.length == names.length &&
    (m.rawParameters.zip names).all fun (id, name) =>
      (a.cls id).name == name || (a.cls id).fullName == name

/-- The declared field of this name. -/
def field? (a : Atlas) (id : ClassId) (name : String) : Option MemberId :=
  (a.declared id fun m => m.isField && m.name == name).head?

/-- The declared method of this name with these parameters. -/
def method? (a : Atlas) (id : ClassId) (name : String) (parameters : List String) :
    Option MemberId :=
  a.preferred? (a.declared id fun m =>
    m.isMethod && m.name == name && a.hasParameters m parameters)

/-- The declared constructor with these parameters. -/
def constructor? (a : Atlas) (id : ClassId) (parameters : List String) : Option MemberId :=
  a.preferred? (a.declared id fun m => m.isConstructor && a.hasParameters m parameters)

/-- The declared method, or constructor if the name is that of constructors. -/
def codeUnit? (a : Atlas) (id : ClassId) (name : String) (parameters : List String) :
    Option MemberId :=
  if name == constructorName then a.constructor? id parameters else a.method? id name parameters

/-! ## Accesses -/

/-- The accesses made from a code unit. -/
def accessesFrom (a : Atlas) (id : MemberId) : List Access :=
  (((a.member id).codeUnit?.map (·.accesses)).getD []).map a.access

/-- The accesses of some kind made from a code unit. -/
def accessesOfKind (a : Atlas) (id : MemberId) (wanted : AccessKind → Bool) : List Access :=
  (a.accessesFrom id).filter fun access => wanted access.kind

/-- The accesses made from the code units of a class. -/
def accessesFromClass (a : Atlas) (id : ClassId) : List Access :=
  (a.codeUnits id).flatMap a.accessesFrom

end ClassAtlas.Atlas
