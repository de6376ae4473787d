/-!
# Settings

* `ImportOptions` — how records are linked.
* `AnnotFormat` — how annotations are written as text.
-/

namespace ClassAtlas

/-- Options of linking. -/
structure ImportOptions where
  /-- Whether the files of classes get a checksum. -/
  checksums : Bool := false
deriving DecidableEq, Repr, Inhabited

/-- The brackets around the items of an array. -/
inductive ArrayStyle where
  | curly
  | square
deriving DecidableEq, Repr, Inhabited

/-- The word for a style of arrays. -/
def ArrayStyle.text : ArrayStyle → String
  | .curly => "curly"
  | .square => "square"

/-- How annotations are written as text. -/
structure AnnotFormat where
  quoteStrings : Bool := true
  /-- What stands behind a class literal. -/
  classSuffix : String := ".class"
  arrayStyle : ArrayStyle := .curly
  /-- Whether the name of the property is left out if `value` is the only one. -/
  omitSingleValueName : Bool := true
deriving DecidableEq, Repr, Inhabited

/-- All settings. -/
structure Settings where
  linking : ImportOptions := {}
  annotFormat : AnnotFormat := {}
deriving DecidableEq, Repr, Inhabited

end ClassAtlas
