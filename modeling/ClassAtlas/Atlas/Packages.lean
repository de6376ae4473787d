import ClassAtlas.Atlas.Basic
import ClassAtlas.PackagePattern.Basic

/-!
# Classes by package
-/

namespace ClassAtlas.Atlas

/-- The imported classes whose package matches one of the patterns.  The first malformed pattern is
an error. -/
def classesInPackages (a : Atlas) (patterns : List String) : Except ModelError (List ClassId) := do
  let parsed ← patterns.mapM PackagePattern.parse
  return a.imported.toList.filter fun id =>
    parsed.any fun p => p.selects (a.cls id).packageName

end ClassAtlas.Atlas
