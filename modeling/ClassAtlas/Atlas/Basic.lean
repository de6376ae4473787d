import ClassAtlas.Atlas.Access
import ClassAtlas.Atlas.ClassNode
import ClassAtlas.Atlas.Member
import ClassAtlas.TypeName.Registry

/-!
# The atlas

All linked classes with their members, accesses and type variables.  Everything that refers to a
class refers to a node of the atlas: classes that have no record are there as stubs.

* `Atlas.intern` — the node of a type name, added if it is new.
* `Atlas.get?` — the node of a name, if it is known.
* `Atlas.addMember`, `Atlas.addAccess`, `Atlas.addVariable` — growing the arrays.
-/

namespace ClassAtlas

/-- The linked classes. -/
structure Atlas where
  classes : Array ClassNode := #[]
  /-- The spellings of type names seen so far. -/
  names : Std.HashMap String ClassId := ∅
  members : Array Member := #[]
  accesses : Array Access := #[]
  typeVars : Array TypeVar := #[]
  /-- The classes that have a record, in order. -/
  imported : Array ClassId := #[]
  registry : Registry := .empty
deriving Inhabited

namespace Atlas

/-! ## Nodes -/

/-- The class at a position. -/
def cls (a : Atlas) (id : ClassId) : ClassNode :=
  a.classes.getD id.index default

/-- The member at a position. -/
def member (a : Atlas) (id : MemberId) : Member :=
  a.members.getD id.index default

/-- The access at a position. -/
def access (a : Atlas) (id : AccessId) : Access :=
  a.accesses.getD id.index default

/-- The type variable at a position. -/
def typeVar (a : Atlas) (id : VarId) : TypeVar :=
  a.typeVars.getD id.index default

/-- The position of `java.lang.Object`, which is the first class of every atlas. -/
def object : ClassId :=
  ⟨0⟩

/-! ## Interning names -/

/-- Adds the stub of a type. -/
def addStub (a : Atlas) (type : Descriptor) (component : Option ClassId) : ClassId × Atlas :=
  let id : ClassId := ⟨a.classes.size⟩
  (id, { a with
    classes := a.classes.push { id := id, type := type, component := component }
    names := a.names.insert type.name id })

/-- The node of a type; an array comes after its component. -/
def place : Descriptor → Atlas → ClassId × Atlas
  | .array component, a =>
    match a.names.get? (Descriptor.array component).name with
    | some id => (id, a)
    | none =>
      let (componentId, a) := place component a
      a.addStub (.array component) (some componentId)
  | type, a =>
    match a.names.get? type.name with
    | some id => (id, a)
    | none => a.addStub type none

/-- The node of a type name, added if it is new.  A name that stands for no type changes nothing. -/
def intern (a : Atlas) (name : String) : Except ModelError (ClassId × Atlas) :=
  match a.names.get? name with
  | some id => .ok (id, a)
  | none => do
    let (type, registry) ← a.registry.describe name.toList
    let (id, a) := place type { a with registry := registry }
    return (id, { a with names := a.names.insert name id })

/-- The atlas that knows `java.lang.Object` only. -/
def empty : Atlas :=
  match intern {} objectClassName with
  | .ok (_, a) => a
  | .error _ => {}

/-- The class of a name, with `.` or `/` between its parts. -/
def get? (a : Atlas) (name : String) : Option ClassId :=
  a.names.get? name <|> a.names.get? (String.ofList (Text.replaceChar '/' '.' name.toList))

/-- Whether a class of this name has a record. -/
def hasRecord (a : Atlas) (name : String) : Bool :=
  (a.get? name).any fun id => (a.cls id).imported

/-! ## Changing nodes -/

/-- Changes the class at a position. -/
def modifyClass (a : Atlas) (id : ClassId) (change : ClassNode → ClassNode) : Atlas :=
  { a with classes := a.classes.modify id.index change }

/-- Changes the member at a position. -/
def modifyMember (a : Atlas) (id : MemberId) (change : Member → Member) : Atlas :=
  { a with members := a.members.modify id.index change }

/-- Sets the bounds of a type variable. -/
def setBounds (a : Atlas) (id : VarId) (bounds : List TypeRef) : Atlas :=
  { a with typeVars := a.typeVars.modify id.index fun v => { v with bounds := bounds } }

/-- Adds a member to its owner. -/
def addMember (a : Atlas) (make : MemberId → Member) : MemberId × Atlas :=
  let id : MemberId := ⟨a.members.size⟩
  let m := make id
  let a := { a with members := a.members.push m }
  (id, a.modifyClass m.owner fun c => { c with members := c.members ++ [id] })

/-- Adds an access. -/
def addAccess (a : Atlas) (make : AccessId → Access) : AccessId × Atlas :=
  let id : AccessId := ⟨a.accesses.size⟩
  (id, { a with accesses := a.accesses.push (make id) })

/-- Adds a type variable without bounds. -/
def addVariable (a : Atlas) (name : String) (owner : VarOwner) : VarId × Atlas :=
  let id : VarId := ⟨a.typeVars.size⟩
  (id, { a with
    typeVars := a.typeVars.push { id := id, name := name, owner := owner, bounds := [] } })

/-! ## Places in the source -/

/-- A line of the source of a class, such as `(Foo.java:12)`. -/
def location (a : Atlas) (id : ClassId) (line : Nat) : String :=
  "(" ++ (a.cls id).sourceFileName ++ ":" ++ toString line ++ ")"

/-- The class that an access starts from. -/
def originOwner (a : Atlas) (access : Access) : ClassId :=
  (a.member access.origin).owner

/-- An access in words, such as `Method <a.A.foo()> calls method <b.B.bar()> in (A.java:5)`. -/
def describeAccess (a : Atlas) (access : Access) : String :=
  let origin := a.member access.origin
  origin.description ++ " " ++ access.kind.verb ++ " " ++ access.target.description ++ " in " ++
    a.location origin.owner access.line

/-- The component inside all array layers, found in at most `steps` steps. -/
def baseWithin (a : Atlas) : (steps : Nat) → ClassId → ClassId
  | 0, id => id
  | steps + 1, id =>
    match (a.cls id).component with
    | some component => a.baseWithin steps component
    | none => id

/-- The class inside all array layers of a class. -/
def baseComponent (a : Atlas) (id : ClassId) : ClassId :=
  a.baseWithin a.classes.size id

end Atlas

end ClassAtlas
