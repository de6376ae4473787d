import ClassAtlas.ImportContext
import ClassAtlas.Json.Parser
import ClassAtlas.Record.Reader
import ClassAtlas.Record.Writer
import ClassAtlas.Search

/-!
# Import batches

A batch is a list of class records, built in memory or read from a JSON text.

* `Batch.record?` — the record of a name: the first of that name.
* `Batch.codeUnit?` — the code unit of a key.
* `Batch.context` — the batch as an import context.
* `Batch.ofText?`, `Batch.toJson` — reading and writing.
-/

namespace ClassAtlas

/-- A list of class records. -/
structure Batch where
  classes : List Record.Class
deriving Inhabited

namespace Batch

/-- The number of records. -/
def size (b : Batch) : Nat :=
  b.classes.length

/-- The first record of a class. -/
def record? (b : Batch) (name : String) : Option Record.Class :=
  b.classes.find? fun c => c.name == name

/-- The name of the class around a class. -/
def enclosing (b : Batch) (name : String) : List String :=
  ((b.record? name).bind (·.enclosingClass)).toList

/-- The type parameters of a class and of the classes around it, the innermost first. -/
def scopes (b : Batch) (owner : String) : TypeScopes :=
  (Search.depthFirst b.enclosing b.size owner).filterMap fun name =>
    (b.record? name).map (·.typeParameters)

/-- The first code unit with the name and the descriptor of a key. -/
def codeUnit? (b : Batch) (key : UnitKey) : Option Record.CodeUnit := do
  let scopes := b.scopes key.owner
  (← b.record? key.owner).codeUnits.find? fun u =>
    u.name == key.name && u.descriptorIn scopes == key.descriptor

/-- A list taken from the record of a class. -/
def ofClass {α : Type} (b : Batch) (items : Record.Class → List α) (name : String) : List α :=
  ((b.record? name).map items).getD []

/-- A list taken from the record of a code unit. -/
def ofUnit {α : Type} (b : Batch) (items : Record.CodeUnit → List α) (key : UnitKey) : List α :=
  ((b.codeUnit? key).map items).getD []

/-- The batch as an import context. -/
def context (b : Batch) : ImportContext where
  headers := b.classes.map Record.Class.header
  superclass := fun name => (b.record? name).bind (·.effectiveSuperclass)
  interfaces := b.ofClass (·.interfaces)
  typeParameters := b.ofClass (·.typeParameters)
  enclosingClass := fun name => (b.record? name).bind (·.enclosingClass)
  fields := b.ofClass (·.fields)
  methods := b.ofClass (·.methods)
  constructors := b.ofClass (·.constructors)
  staticInitializer := fun name => (b.record? name).bind (·.staticInitializer)
  annotations := b.ofClass (·.annotations)
  fieldAccesses := b.ofUnit (·.fieldAccesses)
  methodCalls := b.ofUnit (·.methodCalls)
  constructorCalls := b.ofUnit (·.constructorCalls)
  methodReferences := b.ofUnit (·.methodReferences)
  constructorReferences := b.ofUnit (·.constructorReferences)

/-! ## Reading and writing -/

/-- A batch in JSON: a record with the field `classes`, which may be absent. -/
def read : Json.Reader Batch := fun room value => do
  let f ← Json.fields ["classes"] room value
  return { classes := ← f.listOf "classes" Record.cls }

/-- The batch that a JSON value stands for. -/
def ofJson? (value : Json) : Option Batch :=
  read Json.depthLimit value

/-- The batch that a JSON text stands for. -/
def ofText? (text : String) : Option Batch := do
  ofJson? (← Json.parse? text)

/-- The batch as a JSON value. -/
def toJson (b : Batch) : Json :=
  .obj [("classes", .arr (b.classes.map Record.Class.toJson))]

end Batch

end ClassAtlas
