import ClassAtlas.Report.Cycles
import ClassAtlas.Resolution

/-!
# The summary report
-/

namespace ClassAtlas

/-- How much of everything there is. -/
structure SummaryReport where
  imported : Nat
  stubs : Nat
  interfaces : Nat
  enums : Nat
  annotationTypes : Nat
  records : Nat
  fields : Nat
  methods : Nat
  constructors : Nat
  staticInitializers : Nat
  accesses : Nat
  resolved : Nat
  dependencies : Nat
  cycles : Nat
  inCycles : Nat
deriving DecidableEq, Repr, Inhabited

/-- Counts everything. -/
def Atlas.summaryReport (a : Atlas) : SummaryReport :=
  let imported := a.imported.toList.map a.cls
  let ofKind (kind : ClassKind) := imported.countP fun c => c.kind == kind
  let members := a.members.toList
  let report := a.cycleReport
  { imported := imported.length
    stubs := a.classes.toList.countP fun c => !c.imported && !c.isPrimitive
    interfaces := ofKind .interface
    enums := ofKind .enum
    annotationTypes := ofKind .annotationType
    records := ofKind .record
    fields := members.countP Member.isField
    methods := members.countP Member.isMethod
    constructors := members.countP Member.isConstructor
    staticInitializers := members.countP Member.isStaticInitializer
    accesses := a.accesses.size
    resolved := a.accesses.toList.countP fun access => (a.resolve? access.target).isSome
    dependencies := a.allDependencies.length
    cycles := report.cycles.length
    inCycles := report.involved }

namespace SummaryReport

/-- The accesses that do not resolve. -/
def unresolved (r : SummaryReport) : Nat :=
  r.accesses - r.resolved

/-- The report as JSON. -/
def toJson (r : SummaryReport) : Json :=
  .obj [
    ("command", .str "summary"),
    ("classes", .obj [
      ("imported", .nat r.imported),
      ("stubs", .nat r.stubs),
      ("interfaces", .nat r.interfaces),
      ("enums", .nat r.enums),
      ("annotations", .nat r.annotationTypes),
      ("records", .nat r.records)]),
    ("members", .obj [
      ("fields", .nat r.fields),
      ("methods", .nat r.methods),
      ("constructors", .nat r.constructors),
      ("static_initializers", .nat r.staticInitializers)]),
    ("accesses", .obj [
      ("total", .nat r.accesses),
      ("resolved", .nat r.resolved),
      ("unresolved", .nat r.unresolved)]),
    ("dependencies", .nat r.dependencies),
    ("cycles", .obj [
      ("cycle_count", .nat r.cycles),
      ("classes_in_cycles", .nat r.inCycles)])]

/-- The report as text. -/
def text (r : SummaryReport) : String :=
  let n (count : Nat) := toString count
  Report.lines [
    "Classes:      " ++ n r.imported ++ " imported, " ++ n r.stubs ++ " stubs (" ++
      n r.interfaces ++ " interfaces, " ++ n r.enums ++ " enums, " ++ n r.annotationTypes ++
      " annotations, " ++ n r.records ++ " records)",
    "Members:      " ++ n r.fields ++ " fields, " ++ n r.methods ++ " methods, " ++
      n r.constructors ++ " constructors, " ++ n r.staticInitializers ++ " static initializers",
    "Accesses:     " ++ n r.accesses ++ " total, " ++ n r.resolved ++ " resolved, " ++
      n r.unresolved ++ " unresolved",
    "Dependencies: " ++ n r.dependencies,
    "Cycles:       " ++ n r.cycles ++ " (" ++ n r.inCycles ++ " classes)"]

end SummaryReport

end ClassAtlas
