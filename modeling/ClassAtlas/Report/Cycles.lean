import ClassAtlas.Dependency.Cycle
import ClassAtlas.Report.Output

/-!
# The report on cycles
-/

namespace ClassAtlas.CycleReport

/-- The report as JSON. -/
def toJson (r : CycleReport) (a : Atlas) : Json :=
  .obj [
    ("cycles", .arr (r.cycles.map fun cycle => .obj [
      ("classes", .arr (cycle.map fun id => .obj [
        ("class_id", .nat id.index),
        ("name", .str (a.cls id).name)])),
      ("length", .nat cycle.length)])),
    ("confidence", .str r.confidence.text),
    ("summary", .obj [
      ("total_classes", .nat r.total),
      ("classes_in_cycles", .nat r.involved),
      ("cycle_count", .nat r.cycles.length),
      ("shortest_cycle", .nat r.shortest),
      ("longest_cycle", .nat r.longest)])]

/-- A cycle with its number as text. -/
def cycleText (a : Atlas) (cycle : List ClassId) (number : Nat) : String :=
  "  " ++ toString number ++ ". [" ++ toString cycle.length ++ "] " ++
    " <-> ".intercalate (cycle.map fun id => (a.cls id).name)

/-- The report as text. -/
def text (r : CycleReport) (a : Atlas) : String :=
  let confidence := " (confidence: " ++ r.confidence.text ++ ")"
  Report.lines <|
    if r.cycles.isEmpty then
      ["No dependency cycles among " ++ toString r.total ++ " classes" ++ confidence]
    else
      (toString r.cycles.length ++ " cycles, " ++ toString r.involved ++ " classes involved" ++
          confidence) ::
        (r.cycles.zipIdx 1).map fun (cycle, number) => cycleText a cycle number

end ClassAtlas.CycleReport
