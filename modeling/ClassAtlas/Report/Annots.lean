import ClassAtlas.Atlas.AnnotText
import ClassAtlas.Dependency.Reverse
import ClassAtlas.Report.Output

/-!
# The report on the annotations of a class
-/

namespace ClassAtlas

/-- An annotation with the element it stands on, both in words. -/
structure AnnotEntry where
  element : String
  text : String
deriving DecidableEq, Repr, Inhabited

/-- The annotations on a class and inside of it, and its uses as an annotation. -/
structure AnnotReport where
  cls : ClassId
  declared : List AnnotEntry
  usages : List AnnotEntry

/-- An annotation and its element in words. -/
def Atlas.annotEntry (a : Atlas) (f : AnnotFormat) (element : Element) (annot : Annot) :
    AnnotEntry :=
  ⟨a.describeElement element, f.text a annot⟩

/-- Collects the annotations of a class. -/
def Atlas.annotReport (a : Atlas) (f : AnnotFormat) (id : ClassId) : AnnotReport where
  cls := id
  declared := (a.annotsWithin id).map fun (element, annot) => a.annotEntry f element annot
  usages := (a.annotsOfType id).map fun (element, _, annot) => a.annotEntry f element annot

namespace AnnotReport

/-- An entry as JSON. -/
def entry (e : AnnotEntry) : Json :=
  .obj [("element", .str e.element), ("annotation", .str e.text)]

/-- The report as JSON. -/
def toJson (r : AnnotReport) (a : Atlas) : Json :=
  .obj [
    ("command", .str "annotations"),
    ("class", .str (a.cls r.cls).name),
    ("declared", .arr (r.declared.map entry)),
    ("usages", .arr (r.usages.map entry))]

/-- The report as text. -/
def text (r : AnnotReport) : String :=
  Report.lines <|
    (r.declared.map fun e => Report.padRight 60 e.element ++ " " ++ e.text) ++
      (if r.usages.isEmpty then []
        else
          ("Used as annotation on " ++ toString r.usages.length ++ " elements:") ::
            r.usages.map fun e => "  " ++ e.element)

end AnnotReport

end ClassAtlas
