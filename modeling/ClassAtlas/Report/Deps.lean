import ClassAtlas.Dependency.Transitive
import ClassAtlas.Report.Output

/-!
# The report on the dependencies of a class
-/

namespace ClassAtlas

/-- Which dependencies are asked for. -/
inductive Direction where
  /-- What the class depends on. -/
  | out
  /-- What depends on the class. -/
  | into
  | both
deriving DecidableEq, Repr, Inhabited

/-- The directions by name. -/
def Direction.names : List (String × Direction) :=
  [("in", .into), ("out", .out), ("both", .both)]

/-- The word for a direction. -/
def Direction.text : Direction → String
  | .out => "out"
  | .into => "in"
  | .both => "both"

/-- The dependencies of a class. -/
structure DepsReport where
  cls : ClassId
  direction : Direction
  transitive : Bool
  outgoing : List Dependency
  incoming : List Dependency

/-- Collects the dependencies of a class. -/
def Atlas.depsReport (a : Atlas) (id : ClassId) (direction : Direction) (transitive : Bool) :
    DepsReport where
  cls := id
  direction := direction
  transitive := transitive
  outgoing :=
    if direction = .into then []
    else if transitive then a.transitiveFrom id
    else a.dependenciesFrom id
  incoming :=
    if direction = .out then []
    else if transitive then a.transitiveTo id
    else a.dependenciesTo id

namespace DepsReport

/-- A dependency as JSON. -/
def entry (a : Atlas) (d : Dependency) : Json :=
  .obj [
    ("origin", .str (a.cls d.origin).name),
    ("target", .str (a.cls d.target).name),
    ("kind", .str d.kind.text),
    ("line", .nat d.line),
    ("description", .str d.description)]

/-- The report as JSON. -/
def toJson (r : DepsReport) (a : Atlas) : Json :=
  .obj [
    ("command", .str "deps"),
    ("class", .str (a.cls r.cls).name),
    ("direction", .str r.direction.text),
    ("transitive", .bool r.transitive),
    ("outgoing", .arr (r.outgoing.map (entry a))),
    ("incoming", .arr (r.incoming.map (entry a))),
    ("summary", .obj [
      ("outgoing", .nat r.outgoing.length),
      ("incoming", .nat r.incoming.length),
      ("classes_depended_on", .nat (r.outgoing.map (·.target)).eraseDups.length),
      ("dependent_classes", .nat (r.incoming.map (·.origin)).eraseDups.length)])]

/-- A list of dependencies under a heading. -/
def paragraph (heading : String) (ds : List Dependency) : List String :=
  (heading ++ " (" ++ toString ds.length ++ "):") :: ds.map fun d => "  " ++ d.description

/-- The report as text. -/
def text (r : DepsReport) (a : Atlas) : String :=
  Report.lines <|
    [(a.cls r.cls).name ++ (if r.transitive then " (transitive)" else "")] ++
      (if !r.outgoing.isEmpty || r.incoming.isEmpty then paragraph "Depends on" r.outgoing
        else []) ++
      (if r.incoming.isEmpty then [] else paragraph "Depended on by" r.incoming)

end DepsReport

end ClassAtlas
