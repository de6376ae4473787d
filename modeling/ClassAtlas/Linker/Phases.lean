import ClassAtlas.Distinct
import ClassAtlas.Linker.Basic

/-!
# The phases of linking

Every phase runs over all classes before the next one starts, because later phases look at what
earlier ones have linked for other classes.

* `Linker.linkHierarchy` — enclosing classes, type parameters, supertypes.
* `Linker.linkMembers` — fields, code units, annotations.
* `Linker.linkAccesses` — what code units do with members.
-/

namespace ClassAtlas.Linker

/-- Starts a phase, which has to follow the phase that was started last. -/
def advance (expected next : Phase) : LinkM Unit := do
  let s ← get
  if s.phase ≠ expected then throw (.phaseOrder expected s.phase)
  set { s with phase := next }

/-- The name of a class of the atlas. -/
def nameOf (id : ClassId) : LinkM String :=
  return ((← get).atlas.cls id).name

/-! ## The hierarchy -/

/-- Links the enclosing class and declares the type parameters of a class. -/
def declareClass (id : ClassId) : LinkM (List VarId × List TypeParam) := do
  let name ← nameOf id
  let context := (← get).context
  if let some enclosing := context.enclosingClass name then
    let enclosing ← intern enclosing
    modifyAtlas fun a => a.modifyClass id fun c => { c with enclosingClass := some enclosing }
  let parameters := context.typeParameters name
  let declared ← declare (.cls id) parameters
  modifyAtlas fun a => a.modifyClass id fun c => { c with typeParameters := declared }
  return (declared, parameters)

/-- Sets the supertypes of a class and lists it below each of them, but not below itself. -/
def setSupertypes (id : ClassId) (superclass : Option TypeRef) (interfaces : List TypeRef)
    (a : Atlas) : Atlas :=
  let a := a.modifyClass id fun c => { c with superclass := superclass, interfaces := interfaces }
  let above := (a.cls id).rawSupertypes.filter (· ≠ id)
  above.foldl (fun a supertype =>
    a.modifyClass supertype fun c => { c with subclasses := c.subclasses ++ [id] }) a

/-- Links the supertypes of a class. -/
def linkSupertypes (id : ClassId) : LinkM Unit := do
  let name ← nameOf id
  let context := (← get).context
  let superclass ← (context.superclass name).mapM (linkType { cls := id })
  let interfaces ← linkTypes { cls := id } (context.interfaces name)
  modifyAtlas (setSupertypes id superclass interfaces)

/-- Links enclosing classes, type parameters and supertypes.  All type parameters are declared
before any bound is linked, since a bound may mention a variable of an enclosing class. -/
def linkHierarchy : LinkM Unit := do
  advance .created .hierarchy
  let imported := (← get).atlas.imported.toList
  let declared ← imported.mapM fun id => return (id, ← declareClass id)
  declared.forM fun (id, vars, parameters) => linkBounds { cls := id } vars parameters
  imported.forM linkSupertypes

/-! ## Members -/

/-- Links a field of a class. -/
def linkField (owner : ClassId) (r : Record.Field) : LinkM Unit := do
  let type ← linkType { cls := owner } r.type
  let a := (← get).atlas
  let raw := a.erasure type
  let id ← addToAtlas fun a => a.addMember fun id =>
    { id := id
      owner := owner
      name := r.name
      descriptor := fieldDescriptor (a.cls raw).name
      fullName := fieldName (a.cls owner).name r.name
      modifiers := r.modifiers
      annotations := []
      body := .field type raw }
  let annotations ← linkAnnots (.member id) r.annotations
  modifyAtlas fun a => a.modifyMember id fun m => { m with annotations := annotations }

/-- Links the parameters of a code unit. -/
def linkParams (scope : Scope) (member : MemberId) (records : List Record.Param) :
    LinkM (List Param) :=
  records.zipIdx.mapM fun (r, position) => do
    let type ← linkType scope r.type
    let raw := (← get).atlas.erasure type
    let annotations ← linkAnnots (.parameter member position) r.annotations
    return { position := position, type := type, raw := raw, annotations := annotations }

/-- Links uses of types in a body. -/
def linkTypeUses (records : List Record.TypeUse) : LinkM (List TypeUse) :=
  records.mapM fun r => return { target := ← intern r.type, line := r.line }

/-- Links a code unit of a class.  The member is added first, without name and signature, because
its type parameters belong to it. -/
def linkCodeUnit (owner : ClassId) (kind : CodeKind) (r : Record.CodeUnit) : LinkM Unit := do
  let id ← addToAtlas fun a => a.addMember fun id =>
    { id := id
      owner := owner
      name := r.name
      descriptor := ""
      fullName := ""
      modifiers := r.modifiers
      annotations := []
      body := .code .method {} }
  let scope : Scope := { cls := owner, codeUnit := some id }
  let typeParameters ← declare (.codeUnit id) r.typeParameters
  modifyAtlas fun a => a.modifyMember id fun m =>
    m.modifyCodeUnit fun u => { u with typeParameters := typeParameters }
  linkBounds scope typeParameters r.typeParameters
  let parameters ← linkParams scope id r.parameters
  let returns ← linkType scope r.returns
  let rawReturns := (← get).atlas.erasure returns
  let throws ← r.throws.mapM intern
  let catchBlocks ← r.catchBlocks.mapM fun b =>
    return { types := ← b.types.mapM intern, line := b.line }
  let instanceofChecks ← linkTypeUses r.instanceofChecks
  let classObjects ← linkTypeUses r.classObjects
  let annotations ← linkAnnots (.member id) r.annotations
  let a := (← get).atlas
  let ownerName := (a.cls owner).name
  let descriptor := r.descriptor.getD
    (methodDescriptor (parameters.map fun p => (a.cls p.raw).name) (a.cls rawReturns).name)
  modifyAtlas fun a => a.modifyMember id fun m =>
    { m with
      fullName := codeUnitName ownerName r.name (parameters.map fun p => (a.cls p.raw).fullName)
      descriptor := descriptor
      annotations := annotations
      body := .code kind {
        returns := some returns
        rawReturns := some rawReturns
        parameters := parameters
        throws := throws
        typeParameters := typeParameters
        firstLine := r.firstLine
        catchBlocks := catchBlocks
        instanceofChecks := instanceofChecks
        classObjects := classObjects } }
  modify fun s => { s with pending := s.pending ++ [(id, ⟨ownerName, r.name, descriptor⟩)] }

/-- Links the members and the annotations of a class. -/
def linkClassMembers (id : ClassId) : LinkM Unit := do
  let name ← nameOf id
  let context := (← get).context
  (context.fields name).forM (linkField id)
  (context.constructors name).forM (linkCodeUnit id .constructor)
  (context.methods name).forM (linkCodeUnit id .method)
  (context.staticInitializer name).toList.forM (linkCodeUnit id .staticInitializer)
  let annotations ← linkAnnots (.cls id) (context.annotations name)
  modifyAtlas fun a => a.modifyClass id fun c => { c with annotations := annotations }

/-- Links the members of all classes. -/
def linkMembers : LinkM Unit := do
  advance .hierarchy .members
  (← get).atlas.imported.toList.forM linkClassMembers

/-! ## Accesses -/

/-- What an access does, to which target and on which line. -/
abbrev Use :=
  AccessKind × Target × Nat

/-- Links an access to a field. -/
def linkFieldAccess (r : Record.FieldAccess) : LinkM Use := do
  let owner ← intern r.owner
  let type ← intern r.type
  let kind := AccessKind.fieldAccess r.use
  return (kind,
    { kind := kind.targetKind
      owner := owner
      name := r.name
      parameters := []
      returns := type
      fullName := fieldName (← nameOf owner) r.name }, r.line)

/-- Links a call or a reference. -/
def linkCall (kind : AccessKind) (r : Record.Call) : LinkM Use := do
  let owner ← intern r.owner
  let parameters ← r.parameters.mapM intern
  let returns ← intern r.returns
  let a := (← get).atlas
  return (kind,
    { kind := kind.targetKind
      owner := owner
      name := r.name
      parameters := parameters
      returns := returns
      fullName :=
        codeUnitName (a.cls owner).name r.name (parameters.map fun p => (a.cls p).fullName) },
    r.line)

/-- Links what is recorded for a code unit. -/
def linkUses (key : UnitKey) : LinkM (List Use) := do
  let context := (← get).context
  let fieldAccesses ← (context.fieldAccesses key).mapM linkFieldAccess
  let methodCalls ← (context.methodCalls key).mapM (linkCall .methodCall)
  let constructorCalls ← (context.constructorCalls key).mapM (linkCall .constructorCall)
  let methodReferences ← (context.methodReferences key).mapM (linkCall .methodReference)
  let constructorReferences ←
    (context.constructorReferences key).mapM (linkCall .constructorReference)
  return fieldAccesses ++ methodCalls ++ constructorCalls ++ methodReferences ++
    constructorReferences

/-- Links the accesses of a code unit.  Of several with the same kind, target name and line, the
first is kept. -/
def linkUnitAccesses (member : MemberId) (key : UnitKey) : LinkM Unit := do
  let uses ← linkUses key
  let originFullName := ((← get).atlas.member member).fullName
  let distinct := distinctBy (fun (kind, target, line) => (kind, target.fullName, line)) uses
  let ids ← distinct.mapM fun (kind, target, line) => addToAtlas fun a => a.addAccess fun id =>
    { id := id
      kind := kind
      origin := member
      originFullName := originFullName
      target := target
      line := line }
  if ((← get).atlas.member member).isField then
    throw (.unknownCodeUnit key.owner key.name key.descriptor)
  modifyAtlas fun a => a.modifyMember member fun m =>
    m.modifyCodeUnit fun u => { u with accesses := ids }

/-- Links the accesses of all code units. -/
def linkAccesses : LinkM Unit := do
  advance .members .accesses
  let pending ← modifyGet fun s => (s.pending, { s with pending := [] })
  pending.forM fun (member, key) => linkUnitAccesses member key

end ClassAtlas.Linker
