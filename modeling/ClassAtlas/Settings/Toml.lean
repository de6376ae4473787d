import ClassAtlas.Settings.Json
import ClassAtlas.Toml.Document

/-!
# Settings in TOML

A group of settings is a table, or an array of the settings in order.  Settings that are absent have
their defaults, and what has another name is passed over.
-/

namespace ClassAtlas

namespace Toml

/-- The settings of a group that are present. -/
def group? (names : List String) : Toml → Option (List (String × Toml))
  | .table entries => some entries
  | .array items => some (names.zip items)
  | .datetime _ => some []
  | _ => none

/-- A truth value. -/
def flag? : Toml → Option Bool
  | .boolean value => some value
  | _ => none

/-- A string. -/
def text? : Toml → Option String
  | .string value => some value
  | _ => none

/-- Whether a value is an empty container. -/
def isEmpty : Toml → Bool
  | .table [] | .array [] => true
  | _ => false

/-- One of several named values, written as its name or as a table with the name as the only key and
nothing inside. -/
def choice? {α : Type} (options : List (String × α)) : Toml → Option α
  | .string name => options.lookup name
  | .table [(name, value)] => if value.isEmpty then options.lookup name else none
  | _ => none

/-- A setting with the value it has when it is absent. -/
def setting {α : Type} (entries : List (String × Toml)) (name : String) (default : α)
    (read : Toml → Option α) : Option α :=
  match entries.lookup name with
  | some value => read value
  | none => some default

end Toml

open Toml

/-- Options of linking in TOML. -/
def ImportOptions.ofToml? (value : Toml) : Option ImportOptions := do
  let entries ← group? ["enable_md5_in_class_sources"] value
  return { checksums := ← setting entries "enable_md5_in_class_sources" false flag? }

/-- The settings for annotations in TOML. -/
def AnnotFormat.ofToml? (value : Toml) : Option AnnotFormat := do
  let entries ← group? AnnotFormat.fieldNames value
  return {
    quoteStrings := ← setting entries "quote_strings" true flag?
    classSuffix := ← setting entries "class_suffix" ".class" text?
    arrayStyle := ← setting entries "array_style" .curly (choice? ArrayStyle.names)
    omitSingleValueName := ← setting entries "omit_single_value_name" true flag? }

/-- The settings that a TOML document stands for. -/
def Settings.parse? (document : String) : Option Settings := do
  let entries ← Toml.parse? document
  return {
    linking := ← setting entries "import" {} ImportOptions.ofToml?
    annotFormat := ← setting entries "annotation_format" {} AnnotFormat.ofToml? }

end ClassAtlas
