import ClassAtlas.Atlas.Basic
import ClassAtlas.Json.Reader

/-!
# Runtime classpaths

An atlas can be compared with the classes that a running program would load.

* `RuntimeClass` — a class of a classpath; `Classpath` — the classes by name.
* `Atlas.reflectClass` — the runtime class of a class, if both agree on the superclass.
* `Atlas.reflectMember` — the runtime member of a member.
-/

namespace ClassAtlas

/-- A method of a runtime class. -/
structure RuntimeMethod where
  name : String
  parameters : List String
deriving DecidableEq, Inhabited

/-- A class as a running program loads it. -/
structure RuntimeClass where
  name : String
  superclass : Option String
  interfaces : List String
  fields : List String
  methods : List RuntimeMethod
  constructors : List (List String)
deriving DecidableEq, Inhabited

/-- The classes that a running program would load.  Of several with one name, the last counts. -/
structure Classpath where
  classes : List RuntimeClass
deriving Inhabited

/-- The class of a name. -/
def Classpath.load? (p : Classpath) (name : String) : Option RuntimeClass :=
  p.classes.reverse.find? fun c => c.name == name

/-- A runtime member that belongs to a member of the atlas. -/
inductive RuntimeMember where
  | field (className name : String)
  | method (className name : String) (parameters : List String)
  | constructor (className : String) (parameters : List String)
deriving DecidableEq

/-- What can go wrong when an atlas is compared with a classpath. -/
inductive ReflectionError where
  | classNotFound (name : String)
  | inconsistent (name reason : String)
deriving DecidableEq

/-- The wording of an error. -/
def ReflectionError.message : ReflectionError → String
  | .classNotFound name => "class " ++ name ++ " cannot be found on the runtime classpath"
  | .inconsistent name reason =>
    "runtime classpath is inconsistent with imported bytecode for " ++ name ++ ": " ++ reason

namespace Atlas

/-- The runtime class of a class.  An imported class has to have the same superclass there. -/
def reflectClass (a : Atlas) (p : Classpath) (id : ClassId) :
    Except ReflectionError RuntimeClass := do
  let c := a.cls id
  let some runtime := p.load? c.name | throw (.classNotFound c.name)
  let superclass := c.rawSuperclass.map fun s => (a.cls s).name
  if c.imported && superclass != runtime.superclass then
    throw (.inconsistent c.name
      ("superclass is " ++ runtime.superclass.getD "absent" ++ " at runtime but " ++
        superclass.getD "absent" ++ " in the imported bytecode"))
  return runtime

/-- The runtime member of a member. -/
def reflectMember (a : Atlas) (p : Classpath) (id : MemberId) :
    Except ReflectionError RuntimeMember := do
  let m := a.member id
  let runtime ← a.reflectClass p m.owner
  let parameters := m.rawParameters.map fun c => (a.cls c).name
  let missing (what : String) : ReflectionError :=
    .inconsistent runtime.name (what ++ " " ++ m.fullName ++ " is missing at runtime")
  match m.codeKind? with
  | none =>
    if runtime.fields.contains m.name then return .field runtime.name m.name
    else throw (missing "field")
  | some .method =>
    if runtime.methods.contains ⟨m.name, parameters⟩ then
      return .method runtime.name m.name parameters
    else throw (missing "method")
  | some .constructor =>
    if runtime.constructors.contains parameters then
      return .constructor runtime.name parameters
    else throw (missing "constructor")
  | some .staticInitializer =>
    throw (.inconsistent runtime.name "static initializers have no reflective counterpart")

end Atlas

/-! ## Reading and writing -/

/-- A method in JSON. -/
def RuntimeMethod.read : Json.Reader RuntimeMethod := fun room value => do
  let f ← Json.fields ["name", "parameter_types"] room value
  return {
    name := ← f.required "name" Json.text
    parameters := ← f.listOf "parameter_types" Json.text }

/-- A class in JSON. -/
def RuntimeClass.read : Json.Reader RuntimeClass := fun room value => do
  let names := ["name", "superclass", "interfaces", "fields", "methods", "constructors"]
  let f ← Json.fields names room value
  return {
    name := ← f.required "name" Json.text
    superclass := ← f.maybe "superclass" Json.text
    interfaces := ← f.listOf "interfaces" Json.text
    fields := ← f.listOf "fields" Json.text
    methods := ← f.listOf "methods" RuntimeMethod.read
    constructors := ← f.listOf "constructors" (Json.list Json.text) }

/-- A class as JSON. -/
def RuntimeClass.toJson (c : RuntimeClass) : Json :=
  .obj [
    ("name", .str c.name),
    ("superclass", .opt (c.superclass.map .str)),
    ("interfaces", .strs c.interfaces),
    ("fields", .strs c.fields),
    ("methods", .arr (c.methods.map fun m =>
      .obj [("name", .str m.name), ("parameter_types", .strs m.parameters)])),
    ("constructors", .arr (c.constructors.map .strs))]

end ClassAtlas
