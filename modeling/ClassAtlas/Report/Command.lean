import ClassAtlas.Atlas.Packages
import ClassAtlas.Report.Accessors
import ClassAtlas.Report.Annots
import ClassAtlas.Report.Deps
import ClassAtlas.Report.Summary

/-!
# Commands

What can be asked of an atlas, and what is printed in answer.

* `Command` — a question; `Command.run` — the answer.
* `CommandError` — why there is none.
-/

namespace ClassAtlas

/-- What can go wrong on the way to a report. -/
inductive CommandError where
  | classNotFound (name : String)
  | memberNotFound (fullName : String)
  | unknownDirection (text : String)
  | invalidPattern (pattern : String) (cause : ModelError)
  | unreadable (path : String)
  | malformed (path : String)
  | linkFailed (path : String) (cause : ModelError)
  | settingsNotFound (path : String)
deriving DecidableEq, Repr

/-- The wording of an error. -/
def CommandError.message : CommandError → String
  | .classNotFound name => "Class not found in batch: " ++ name
  | .memberNotFound fullName => "Member not found in batch: " ++ fullName
  | .unknownDirection text => "Unknown direction: " ++ text ++ " (expected in, out or both)"
  | .invalidPattern pattern _ => "Invalid package pattern: " ++ pattern
  | .unreadable path => "Failed to read " ++ path
  | .malformed path => "Failed to parse " ++ path
  | .linkFailed path _ => "Failed to complete import batch " ++ path
  | .settingsNotFound path => "Config file not found: " ++ path

/-- The error of the model behind an error. -/
def CommandError.cause? : CommandError → Option ModelError
  | .invalidPattern _ cause => some cause
  | .linkFailed _ cause => some cause
  | _ => none

/-- A question to an atlas. -/
inductive Command where
  | summary
  | deps (className : String) (transitive : Bool) (direction : String)
  | accessors (fullName : String)
  | cycles
  | packages (pattern : String)
  | annotations (className : String)
deriving DecidableEq, Repr, Inhabited

/-- The class of a name. -/
def Atlas.findClass (a : Atlas) (name : String) : Except CommandError ClassId :=
  match a.get? name with
  | some id => .ok id
  | none => .error (.classNotFound name)

/-- The imported classes of packages, in ascending order of their names. -/
def Atlas.packagesReport (a : Atlas) (pattern : String) : Except CommandError (List String) :=
  match a.classesInPackages [pattern] with
  | .ok ids => .ok ((ids.map fun id => (a.cls id).name).mergeSort (· ≤ ·))
  | .error cause => .error (.invalidPattern pattern cause)

/-- What is printed in answer to a question. -/
def Command.run (a : Atlas) (annotFormat : AnnotFormat) (format : OutputFormat) :
    Command → Except CommandError String
  | .summary =>
    let r := a.summaryReport
    return format.render r.toJson r.text
  | .deps className transitive direction => do
    let id ← a.findClass className
    let some direction := Direction.names.lookup direction
      | throw (.unknownDirection direction)
    let r := a.depsReport id direction transitive
    return format.render (r.toJson a) (r.text a)
  | .accessors fullName => do
    let some id := a.findMember? fullName | throw (.memberNotFound fullName)
    let r := a.accessorsReport id
    return format.render (r.toJson a) (r.text a)
  | .cycles =>
    let r := a.cycleReport
    return format.render (r.toJson a) (r.text a)
  | .packages pattern => do
    let names ← a.packagesReport pattern
    return format.render
      (.obj [("command", .str "packages"), ("pattern", .str pattern), ("classes", .strs names)])
      (Report.lines names)
  | .annotations className => do
    let id ← a.findClass className
    let r := a.annotReport annotFormat id
    return format.render (r.toJson a) r.text

end ClassAtlas
