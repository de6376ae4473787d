import ClassAtlas.Atlas.Types
import ClassAtlas.ImportContext
import ClassAtlas.Search
import ClassAtlas.Settings.Basic

/-!
# Linking

The linker turns the records of an import context into an atlas, in three phases.  When a step
fails, what was linked before it stays.

* `Linker` — the state between two steps; `LinkM` — a step.
* `Linker.intern` — the class of a name.
* `Linker.linkType` — the type of a signature.
* `Linker.linkAnnots` — annotations.
-/

namespace ClassAtlas

/-- The state of linking. -/
structure Linker where
  context : ImportContext
  options : ImportOptions
  atlas : Atlas
  /-- The phase that was started last. -/
  phase : Phase
  /-- The code units whose accesses are still to be linked. -/
  pending : List (MemberId × UnitKey)
  /-- Type variables that are used without being declared. -/
  undeclared : List ((VarOwner × String) × VarId)

/-- A step of linking.  A step that fails leaves the state as it was at the failure. -/
abbrev LinkM :=
  EStateM ModelError Linker

namespace Linker

/-- Changes the atlas. -/
def modifyAtlas (change : Atlas → Atlas) : LinkM Unit :=
  modify fun s => { s with atlas := change s.atlas }

/-- Adds to the atlas. -/
def addToAtlas {α : Type} (add : Atlas → α × Atlas) : LinkM α :=
  modifyGet fun s =>
    let (id, atlas) := add s.atlas
    (id, { s with atlas := atlas })

/-- The class of a type name, added to the atlas if it is new. -/
def intern (name : String) : LinkM ClassId := do
  match (← get).atlas.intern name with
  | .ok (id, atlas) =>
    modifyAtlas fun _ => atlas
    return id
  | .error e => throw e

/-! ## Type variables -/

/-- Where the name of a type variable is looked up. -/
structure Scope where
  cls : ClassId
  codeUnit : Option MemberId := none

/-- What a variable belongs to that is used in a scope without being declared. -/
def Scope.owner (scope : Scope) : VarOwner :=
  match scope.codeUnit with
  | some id => .codeUnit id
  | none => .cls scope.cls

/-- The variables of a scope: of the code unit, then of the class, then of the classes around it. -/
def Scope.typeVars (scope : Scope) (a : Atlas) : List VarId :=
  let ofUnit :=
    (scope.codeUnit.bind fun id => (a.member id).codeUnit?.map (·.typeParameters)).getD []
  let classes :=
    Search.depthFirst (fun c => (a.cls c).enclosingClass.toList) a.classes.size scope.cls
  ofUnit ++ classes.flatMap fun c => (a.cls c).typeParameters

/-- The variable of a name.  A name that is not declared in the scope stands for one variable
without bounds wherever it is used for the same owner. -/
def linkVariable (scope : Scope) (name : String) : LinkM VarId := do
  let s ← get
  match (scope.typeVars s.atlas).find? fun id => (s.atlas.typeVar id).name == name with
  | some id => return id
  | none =>
    match s.undeclared.lookup (scope.owner, name) with
    | some id => return id
    | none =>
      let id ← addToAtlas fun a => a.addVariable name scope.owner
      modify fun s => { s with undeclared := s.undeclared ++ [((scope.owner, name), id)] }
      return id

/-! ## Types -/

mutual

/-- The type of a signature. -/
def linkType (scope : Scope) : TypeSig → LinkM TypeRef
  | .cls name => return .cls (← intern name)
  | .parameterized raw arguments => do
    let raw ← intern raw
    return .parameterized raw (← linkTypes scope arguments)
  | .variable name => return .variable (← linkVariable scope name)
  | .wildcard upper lower => do
    let upper ← linkTypes scope upper
    return .wildcard upper (← linkTypes scope lower)
  | .genericArray component => do
    let component ← linkType scope component
    let a := (← get).atlas
    let erasure ← intern ((a.cls (a.erasure component)).name ++ "[]")
    return .genericArray component erasure

def linkTypes (scope : Scope) : List TypeSig → LinkM (List TypeRef)
  | [] => return []
  | sig :: sigs => do
    let type ← linkType scope sig
    return type :: (← linkTypes scope sigs)

end

/-- Declares type parameters, without their bounds. -/
def declare (owner : VarOwner) (parameters : List TypeParam) : LinkM (List VarId) :=
  parameters.mapM fun p => addToAtlas fun a => a.addVariable p.name owner

/-- Links the bounds of declared type parameters. -/
def linkBounds (scope : Scope) (declared : List VarId) (parameters : List TypeParam) :
    LinkM Unit :=
  (declared.zip parameters).forM fun (id, p) => do
    let bounds ← linkTypes scope p.bounds
    modifyAtlas fun a => a.setBounds id bounds

/-! ## Annotations -/

mutual

/-- The value of a property. -/
def linkValue : Record.AnnotValue → LinkM AnnotValue
  | .boolean value => return .boolean value
  | .byte value => return .byte value
  | .char value => return .char value
  | .short value => return .short value
  | .int value => return .int value
  | .long value => return .long value
  | .float value => return .float value
  | .double value => return .double value
  | .string value => return .string value
  | .cls typeName => return .cls (← intern typeName)
  | .enumConstant enumType name => return .enumConstant (← intern enumType) name
  | .nested type properties => do
    let type ← intern type
    return .nested type (← linkProperties properties)
  | .array items => return .array (← linkValues items)

def linkProperties : List (String × Record.AnnotValue) → LinkM (List (String × AnnotValue))
  | [] => return []
  | (name, value) :: rest => do
    let value ← linkValue value
    return (name, value) :: (← linkProperties rest)

def linkValues : List Record.AnnotValue → LinkM (List AnnotValue)
  | [] => return []
  | value :: rest => do
    let value ← linkValue value
    return value :: (← linkValues rest)

end

/-- The annotations of an element. -/
def linkAnnots (element : Element) (records : List Record.Annot) : LinkM (List Annot) :=
  records.mapM fun r => do
    let type ← intern r.type
    return { type := type, element := element, properties := ← linkProperties r.properties }

end Linker

end ClassAtlas
