import ClassAtlas.Dependency.Reverse
import ClassAtlas.Report.Output

/-!
# The report on the accesses to a member
-/

namespace ClassAtlas

/-- The accesses to a member. -/
structure AccessorsReport where
  member : MemberId
  accesses : List Access

/-- The first member with a full name. -/
def Atlas.findMember? (a : Atlas) (fullName : String) : Option MemberId :=
  (a.members.find? fun m => m.fullName == fullName).map (·.id)

/-- Collects the accesses to a member, by the full name of their origin and then by line. -/
def Atlas.accessorsReport (a : Atlas) (id : MemberId) : AccessorsReport where
  member := id
  accesses := (a.accessesTo id).mergeSort fun x y =>
    ((compare x.originFullName y.originFullName).then (compare x.line y.line)).isLE

namespace AccessorsReport

/-- The number of accesses of some kind. -/
def count (r : AccessorsReport) (wanted : AccessKind → Bool) : Nat :=
  r.accesses.countP fun access => wanted access.kind

/-- An access as JSON. -/
def entry (a : Atlas) (access : Access) : Json :=
  .obj [
    ("origin", .str access.originFullName),
    ("origin_class", .str (a.cls (a.originOwner access)).name),
    ("verb", .str access.kind.verb),
    ("line", .nat access.line),
    ("description", .str (a.describeAccess access))]

/-- The report as JSON. -/
def toJson (r : AccessorsReport) (a : Atlas) : Json :=
  .obj [
    ("command", .str "accessors"),
    ("member", .str (a.member r.member).fullName),
    ("kind", .str (a.member r.member).kindName),
    ("accesses", .arr (r.accesses.map (entry a))),
    ("summary", .obj [
      ("total", .nat r.accesses.length),
      ("calls", .nat (r.count AccessKind.isCall)),
      ("references", .nat (r.count AccessKind.isReference)),
      ("field_accesses", .nat (r.count AccessKind.isFieldAccess))])]

/-- The report as text. -/
def text (r : AccessorsReport) (a : Atlas) : String :=
  Report.lines <|
    ((a.member r.member).description ++ ": " ++ toString r.accesses.length ++ " accesses") ::
      r.accesses.map fun access => "  " ++ a.describeAccess access

end AccessorsReport

end ClassAtlas
