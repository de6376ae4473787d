import ClassAtlas.Json.Reader
import ClassAtlas.Record.Class

/-!
# Reading records from JSON

One reader for each kind of record.  A record is an object, or an array of its fields in the order
of the lists of field names below.  Fields other than names and types may be absent.

* `Record.typeSig` — a type signature: the entry `kind` says which one, and the other entries
  describe it.
* `Record.annotValue` — a property value: an object whose only key says what it is.
* `Record.cls` — a class with everything in it.
-/

namespace ClassAtlas.Record

open Json

/-! ## Type signatures -/

/-- The kinds of type signatures. -/
inductive SigKind where
  | cls
  | parameterized
  | variable
  | wildcard
  | genericArray
deriving DecidableEq, Repr

/-- The kinds of type signatures by name. -/
def SigKind.names : List (String × SigKind) :=
  [("class", .cls), ("parameterized", .parameterized), ("variable", .variable),
    ("wildcard", .wildcard), ("generic_array", .genericArray)]

/-- The kind of a signature that is written by name; inside of another signature a kind may also be
given by its position in the list of names. -/
def SigKind.read (inner : Bool) : Json → Option SigKind
  | .str name => SigKind.names.lookup name
  | .num n => do
    let position ← n.toInt?
    if inner && 0 ≤ position then
      (SigKind.names.map (·.2))[position.toNat]?
    else none
  | _ => none

/-- Splits the entry `kind`, or the first item of an array, from the rest. -/
def splitKind : Json → Option (Json × Json)
  | .obj entries =>
    match entries.filter fun entry => entry.1 == "kind" with
    | [(_, kind)] => some (kind, .obj (entries.filter fun entry => entry.1 != "kind"))
    | _ => none
  | .arr (kind :: rest) => some (kind, .arr rest)
  | _ => none

/-- A type signature with at most `steps` signatures nested in each other. -/
def typeSigWithin : Nat → Bool → Reader TypeSig
  | 0, _, _, _ => none
  | steps + 1, inner, room, value => do
    let (kind, rest) ← splitKind value
    match ← SigKind.read inner kind with
    | .cls =>
      let f ← fields ["name"] room rest
      return .cls (← f.required "name" text)
    | .parameterized =>
      let f ← fields ["raw", "arguments"] room rest
      return .parameterized (← f.required "raw" text)
        (← f.listOf "arguments" (typeSigWithin steps true))
    | .variable =>
      let f ← fields ["name"] room rest
      return .variable (← f.required "name" text)
    | .wildcard =>
      let f ← fields ["upper_bounds", "lower_bounds"] room rest
      return .wildcard (← f.listOf "upper_bounds" (typeSigWithin steps true))
        (← f.listOf "lower_bounds" (typeSigWithin steps true))
    | .genericArray =>
      let f ← fields ["component"] room rest
      return .genericArray (← f.required "component" (typeSigWithin steps true))

/-- A type signature.  Nothing in it may be unreadable, whether it is used or not. -/
def typeSig : Reader TypeSig := fun room value =>
  if isSound room value then typeSigWithin room false room value else none

/-- A type parameter. -/
def typeParam : Reader TypeParam := fun room value => do
  let f ← fields ["name", "bounds"] room value
  return { name := ← f.required "name" text, bounds := ← f.listOf "bounds" typeSig }

/-! ## Annotations -/

/-- An annotation, given the reader of its values. -/
def annotOf (item : Reader AnnotValue) : Reader Annot := fun room value => do
  let f ← fields ["annotation_type", "properties"] room value
  let properties : Reader (List (String × AnnotValue))
    | room + 1, .obj entries => do
      return propertiesOf (← entries.mapM fun entry => do return (entry.1, ← item room entry.2))
    | _, _ => none
  return {
    type := ← f.required "annotation_type" text
    properties := ← f.withDefault "properties" [] properties }

/-- A property value with at most `steps` values nested in each other. -/
def annotValueWithin : Nat → Reader AnnotValue
  | steps + 1, room + 1, .obj [(kind, value)] =>
    match kind with
    | "boolean" => (flag room value).map .boolean
    | "byte" => (integer (-2 ^ 7) (2 ^ 7 - 1) room value).map .byte
    | "char" => (character room value).map .char
    | "short" => (integer (-2 ^ 15) (2 ^ 15 - 1) room value).map .short
    | "int" => (integer (-2 ^ 31) (2 ^ 31 - 1) room value).map .int
    | "long" => (integer (-2 ^ 63) (2 ^ 63 - 1) room value).map .long
    | "float" => (binary32 room value).map .float
    | "double" => (binary64 room value).map .double
    | "string" => (text room value).map .string
    | "class" => (text room value).map .cls
    | "enum_constant" => do
      let f ← fields ["enum_type", "name"] room value
      return .enumConstant (← f.required "enum_type" text) (← f.required "name" text)
    | "annotation" =>
      (annotOf (annotValueWithin steps) room value).map fun a => .nested a.type a.properties
    | "array" => (list (annotValueWithin steps) room value).map .array
    | _ => none
  | _, _, _ => none

/-- A property value. -/
def annotValue : Reader AnnotValue := fun room value =>
  annotValueWithin room room value

/-- An annotation. -/
def annot : Reader Annot :=
  annotOf annotValue

/-! ## Members -/

/-- A set of modifiers; a modifier may be listed more than once. -/
def modifiers : Reader Modifiers := fun room value =>
  (list (choice (Modifier.all.map fun m => (m.text, m))) room value).map .ofList

/-- The field names of a field. -/
def fieldFields : List String :=
  ["name", "field_type", "modifiers", "annotations"]

/-- A field. -/
def field : Reader Field := fun room value => do
  let f ← fields fieldFields room value
  return {
    name := ← f.required "name" text
    type := ← f.required "field_type" typeSig
    modifiers := ← f.withDefault "modifiers" .none modifiers
    annotations := ← f.listOf "annotations" annot }

/-- A parameter. -/
def param : Reader Param := fun room value => do
  let f ← fields ["parameter_type", "annotations"] room value
  return {
    type := ← f.required "parameter_type" typeSig
    annotations := ← f.listOf "annotations" annot }

/-- The use of a field. -/
def fieldUse : Reader FieldUse :=
  choice ([FieldUse.get, .set, .unknown].map fun use => (use.text, use))

/-- An access to a field. -/
def fieldAccess : Reader FieldAccess := fun room value => do
  let f ← fields ["owner", "name", "field_type", "access_type", "line"] room value
  return {
    owner := ← f.required "owner" text
    name := ← f.required "name" text
    type := ← f.required "field_type" text
    use := ← f.withDefault "access_type" .unknown fieldUse
    line := ← f.withDefault "line" 0 line }

/-- A call or reference. -/
def call : Reader Call := fun room value => do
  let f ← fields ["owner", "name", "parameter_types", "return_type", "line"] room value
  return {
    owner := ← f.required "owner" text
    name := ← f.required "name" text
    parameters := ← f.listOf "parameter_types" text
    returns := ← f.withDefault "return_type" "void" text
    line := ← f.withDefault "line" 0 line }

/-- The types caught by one `catch`. -/
def catchBlock : Reader CatchBlock := fun room value => do
  let f ← fields ["caught_types", "line"] room value
  return {
    types := ← f.required "caught_types" (list text)
    line := ← f.withDefault "line" 0 line }

/-- A use of a type in a body. -/
def typeUse : Reader TypeUse := fun room value => do
  let f ← fields ["type_name", "line"] room value
  return {
    type := ← f.required "type_name" text
    line := ← f.withDefault "line" 0 line }

/-- The field names of a code unit. -/
def codeUnitFields : List String :=
  ["name", "descriptor", "modifiers", "type_parameters", "parameters", "return_type", "throws",
    "annotations", "first_line", "field_accesses", "method_calls", "constructor_calls",
    "method_references", "constructor_references", "try_catch_blocks", "instanceof_checks",
    "class_object_references"]

/-- A code unit. -/
def codeUnit : Reader CodeUnit := fun room value => do
  let f ← fields codeUnitFields room value
  return {
    name := ← f.required "name" text
    descriptor := ← f.maybe "descriptor" text
    modifiers := ← f.withDefault "modifiers" .none modifiers
    typeParameters := ← f.listOf "type_parameters" typeParam
    parameters := ← f.listOf "parameters" param
    returns := ← f.withDefault "return_type" (.cls "void") typeSig
    throws := ← f.listOf "throws" text
    annotations := ← f.listOf "annotations" annot
    firstLine := ← f.withDefault "first_line" 0 line
    fieldAccesses := ← f.listOf "field_accesses" fieldAccess
    methodCalls := ← f.listOf "method_calls" call
    constructorCalls := ← f.listOf "constructor_calls" call
    methodReferences := ← f.listOf "method_references" call
    constructorReferences := ← f.listOf "constructor_references" call
    catchBlocks := ← f.listOf "try_catch_blocks" catchBlock
    instanceofChecks := ← f.listOf "instanceof_checks" typeUse
    classObjects := ← f.listOf "class_object_references" typeUse }

/-! ## Classes -/

/-- The kind of a class. -/
def classKind : Reader ClassKind :=
  choice (ClassKind.all.map fun kind => (kind.text, kind))

/-- Where a class was read from. -/
def origin : Reader Origin := fun room value => do
  let f ← fields ["uri", "file_name"] room value
  return { uri := ← f.required "uri" text, fileName := ← f.maybe "file_name" text }

/-- The field names of a class. -/
def classFields : List String :=
  ["name", "kind", "modifiers", "superclass", "interfaces", "type_parameters", "enclosing_class",
    "source", "annotations", "fields", "methods", "constructors", "static_initializer"]

/-- A class. -/
def cls : Reader Class := fun room value => do
  let f ← Json.fields classFields room value
  return {
    name := ← f.required "name" text
    kind := ← f.withDefault "kind" .cls classKind
    modifiers := ← f.withDefault "modifiers" .none modifiers
    superclass := ← f.maybe "superclass" typeSig
    interfaces := ← f.listOf "interfaces" typeSig
    typeParameters := ← f.listOf "type_parameters" typeParam
    enclosingClass := ← f.maybe "enclosing_class" text
    source := ← f.maybe "source" origin
    annotations := ← f.listOf "annotations" annot
    fields := ← f.listOf "fields" field
    methods := ← f.listOf "methods" codeUnit
    constructors := ← f.listOf "constructors" codeUnit
    staticInitializer := ← f.maybe "static_initializer" codeUnit }

end ClassAtlas.Record
