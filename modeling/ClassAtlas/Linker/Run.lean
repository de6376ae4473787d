import ClassAtlas.Linker.Phases

/-!
# Running the linker

* `Linker.start` — a linker that knows the classes of a context.
* `Linker.perform` — carries out one request.
* `Linker.finish` — the atlas, once all phases were started.
* `Atlas.link` — all phases in order.
-/

namespace ClassAtlas

namespace Linker

/-- Adds a class of the context.  A class that is there already stays as it is. -/
def register (files : Files) (options : ImportOptions) (a : Atlas) (h : Record.Header) :
    Except ModelError Atlas := do
  let (id, a) ← a.intern h.name
  if (a.cls id).imported then return a
  let a := a.modifyClass id fun c =>
    { c with
      imported := true
      kind := h.kind
      modifiers := h.modifiers
      source := h.source.map (Source.ofOrigin files options.checksums) }
  return { a with imported := a.imported.push id }

/-- A linker that knows the classes of a context and has linked nothing yet. -/
def start (context : ImportContext) (options : ImportOptions) (files : Files) :
    Except ModelError Linker := do
  let atlas ← context.headers.foldlM (register files options) Atlas.empty
  return {
    context := context
    options := options
    atlas := atlas
    phase := .created
    pending := []
    undeclared := [] }

/-- The atlas.  All phases have to be started before. -/
def finish (s : Linker) : Except ModelError Atlas :=
  if s.phase = .accesses then .ok s.atlas else .error (.phaseOrder .accesses s.phase)

/-- What a linker can be asked to do. -/
inductive Request where
  | hierarchy
  | members
  | accesses
  /-- Asks for the class of a name. -/
  | cls (name : String)
deriving DecidableEq, Repr

/-- The step that a request asks for. -/
def Request.step : Request → LinkM (Option ClassId)
  | .hierarchy => do linkHierarchy; return none
  | .members => do linkMembers; return none
  | .accesses => do linkAccesses; return none
  | .cls name => return some (← intern name)

/-- Carries out a request.  The linker that results can be used further, even after a failure. -/
def perform (s : Linker) (r : Request) : Except ModelError (Option ClassId) × Linker :=
  match r.step.run s with
  | .ok answer s => (.ok answer, s)
  | .error e s => (.error e, s)

end Linker

/-- The atlas of a context: all phases, in order. -/
def Atlas.link (context : ImportContext) (options : ImportOptions) (files : Files) :
    Except ModelError Atlas := do
  let s ← Linker.start context options files
  let steps : LinkM Unit := do
    Linker.linkHierarchy
    Linker.linkMembers
    Linker.linkAccesses
  match steps.run s with
  | .ok _ s => s.finish
  | .error e _ => throw e

end ClassAtlas
