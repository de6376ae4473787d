import ClassAtlas.Json.Reader
import ClassAtlas.Settings.Basic

/-!
# Settings in JSON

Every setting may be absent and then has its default.
-/

namespace ClassAtlas

/-- Options of linking in JSON. -/
def ImportOptions.read : Json.Reader ImportOptions := fun room value => do
  let f ← Json.fields ["enable_md5_in_class_sources"] room value
  return { checksums := ← f.withDefault "enable_md5_in_class_sources" false Json.flag }

/-- Options of linking as JSON. -/
def ImportOptions.toJson (o : ImportOptions) : Json :=
  .obj [("enable_md5_in_class_sources", .bool o.checksums)]

/-- The styles of arrays by name. -/
def ArrayStyle.names : List (String × ArrayStyle) :=
  [ArrayStyle.curly, .square].map fun style => (style.text, style)

/-- The names of the settings for annotations. -/
def AnnotFormat.fieldNames : List String :=
  ["quote_strings", "class_suffix", "array_style", "omit_single_value_name"]

/-- The settings for annotations in JSON. -/
def AnnotFormat.read : Json.Reader AnnotFormat := fun room value => do
  let f ← Json.fields AnnotFormat.fieldNames room value
  return {
    quoteStrings := ← f.withDefault "quote_strings" true Json.flag
    classSuffix := ← f.withDefault "class_suffix" ".class" Json.text
    arrayStyle := ← f.withDefault "array_style" .curly (Json.choice ArrayStyle.names)
    omitSingleValueName := ← f.withDefault "omit_single_value_name" true Json.flag }

/-- The settings for annotations as JSON. -/
def AnnotFormat.toJson (f : AnnotFormat) : Json :=
  .obj [
    ("quote_strings", .bool f.quoteStrings),
    ("class_suffix", .str f.classSuffix),
    ("array_style", .str f.arrayStyle.text),
    ("omit_single_value_name", .bool f.omitSingleValueName)]

/-- All settings as JSON. -/
def Settings.toJson (s : Settings) : Json :=
  .obj [("import", s.linking.toJson), ("annotation_format", s.annotFormat.toJson)]

end ClassAtlas
