import ClassAtlas.Json.Value
import ClassAtlas.Record.Class

/-!
# Writing records as JSON

Every record is written as an object with all its fields in order, absent values as `null`.  A
fraction is always written with a digit after the point; an infinite one is `null`.
-/

namespace ClassAtlas

open Json

/-- An optional text. -/
def Json.optText (value : Option String) : Json :=
  .opt (value.map .str)

/-- A binary fraction as a number. -/
def Json.fraction (value : Decimal.Unpacked) : Json :=
  .opt ((Number.ofUnpacked? value).map .num)

/-! ## Type signatures -/

mutual

/-- A type signature. -/
def TypeSig.toJson : TypeSig → Json
  | .cls name => .obj [("kind", .str "class"), ("name", .str name)]
  | .parameterized raw arguments =>
    .obj [("kind", .str "parameterized"), ("raw", .str raw),
      ("arguments", .arr (TypeSig.listToJson arguments))]
  | .variable name => .obj [("kind", .str "variable"), ("name", .str name)]
  | .wildcard upper lower =>
    .obj [("kind", .str "wildcard"), ("upper_bounds", .arr (TypeSig.listToJson upper)),
      ("lower_bounds", .arr (TypeSig.listToJson lower))]
  | .genericArray component =>
    .obj [("kind", .str "generic_array"), ("component", component.toJson)]

def TypeSig.listToJson : List TypeSig → List Json
  | [] => []
  | sig :: sigs => sig.toJson :: TypeSig.listToJson sigs

end

/-- A type parameter. -/
def TypeParam.toJson (p : TypeParam) : Json :=
  .obj [("name", .str p.name), ("bounds", .arr (p.bounds.map TypeSig.toJson))]

/-- A set of modifiers. -/
def Modifiers.toJson (s : Modifiers) : Json :=
  .strs s.texts

namespace Record

/-! ## Annotations -/

mutual

/-- A property value. -/
def AnnotValue.toJson : AnnotValue → Json
  | .boolean value => .obj [("boolean", .bool value)]
  | .byte value => .obj [("byte", .int value)]
  | .char value => .obj [("char", .str (String.singleton value))]
  | .short value => .obj [("short", .int value)]
  | .int value => .obj [("int", .int value)]
  | .long value => .obj [("long", .int value)]
  | .float value => .obj [("float", .fraction value.unpack)]
  | .double value => .obj [("double", .fraction value.unpack)]
  | .string value => .obj [("string", .str value)]
  | .cls typeName => .obj [("class", .str typeName)]
  | .enumConstant enumType name =>
    .obj [("enum_constant", .obj [("enum_type", .str enumType), ("name", .str name)])]
  | .nested type properties =>
    .obj [("annotation", .obj [("annotation_type", .str type),
      ("properties", .obj (AnnotValue.propertiesToJson properties))])]
  | .array items => .obj [("array", .arr (AnnotValue.listToJson items))]

def AnnotValue.propertiesToJson : List (String × AnnotValue) → List (String × Json)
  | [] => []
  | (name, value) :: rest => (name, value.toJson) :: AnnotValue.propertiesToJson rest

def AnnotValue.listToJson : List AnnotValue → List Json
  | [] => []
  | value :: values => value.toJson :: AnnotValue.listToJson values

end

/-- An annotation. -/
def Annot.toJson (a : Annot) : Json :=
  .obj [("annotation_type", .str a.type),
    ("properties", .obj (AnnotValue.propertiesToJson a.properties))]

/-! ## Members -/

/-- A field. -/
def Field.toJson (f : Field) : Json :=
  .obj [("name", .str f.name), ("field_type", f.type.toJson), ("modifiers", f.modifiers.toJson),
    ("annotations", .arr (f.annotations.map Annot.toJson))]

/-- A parameter. -/
def Param.toJson (p : Param) : Json :=
  .obj [("parameter_type", p.type.toJson), ("annotations", .arr (p.annotations.map Annot.toJson))]

/-- An access to a field. -/
def FieldAccess.toJson (a : FieldAccess) : Json :=
  .obj [("owner", .str a.owner), ("name", .str a.name), ("field_type", .str a.type),
    ("access_type", .str a.use.text), ("line", .nat a.line)]

/-- A call or reference. -/
def Call.toJson (c : Call) : Json :=
  .obj [("owner", .str c.owner), ("name", .str c.name), ("parameter_types", .strs c.parameters),
    ("return_type", .str c.returns), ("line", .nat c.line)]

/-- The types caught by one `catch`. -/
def CatchBlock.toJson (b : CatchBlock) : Json :=
  .obj [("caught_types", .strs b.types), ("line", .nat b.line)]

/-- A use of a type in a body. -/
def TypeUse.toJson (u : TypeUse) : Json :=
  .obj [("type_name", .str u.type), ("line", .nat u.line)]

/-- A code unit. -/
def CodeUnit.toJson (u : CodeUnit) : Json :=
  .obj [
    ("name", .str u.name),
    ("descriptor", .optText u.descriptor),
    ("modifiers", u.modifiers.toJson),
    ("type_parameters", .arr (u.typeParameters.map TypeParam.toJson)),
    ("parameters", .arr (u.parameters.map Param.toJson)),
    ("return_type", u.returns.toJson),
    ("throws", .strs u.throws),
    ("annotations", .arr (u.annotations.map Annot.toJson)),
    ("first_line", .nat u.firstLine),
    ("field_accesses", .arr (u.fieldAccesses.map FieldAccess.toJson)),
    ("method_calls", .arr (u.methodCalls.map Call.toJson)),
    ("constructor_calls", .arr (u.constructorCalls.map Call.toJson)),
    ("method_references", .arr (u.methodReferences.map Call.toJson)),
    ("constructor_references", .arr (u.constructorReferences.map Call.toJson)),
    ("try_catch_blocks", .arr (u.catchBlocks.map CatchBlock.toJson)),
    ("instanceof_checks", .arr (u.instanceofChecks.map TypeUse.toJson)),
    ("class_object_references", .arr (u.classObjects.map TypeUse.toJson))]

/-! ## Classes -/

/-- Where a class was read from. -/
def Origin.toJson (o : Origin) : Json :=
  .obj [("uri", .str o.uri), ("file_name", .optText o.fileName)]

/-- The header of a class. -/
def Header.toJson (h : Header) : Json :=
  .obj [("name", .str h.name), ("kind", .str h.kind.text), ("modifiers", h.modifiers.toJson),
    ("source", .opt (h.source.map Origin.toJson))]

/-- A class. -/
def Class.toJson (c : Class) : Json :=
  .obj [
    ("name", .str c.name),
    ("kind", .str c.kind.text),
    ("modifiers", c.modifiers.toJson),
    ("superclass", .opt (c.superclass.map TypeSig.toJson)),
    ("interfaces", .arr (c.interfaces.map TypeSig.toJson)),
    ("type_parameters", .arr (c.typeParameters.map TypeParam.toJson)),
    ("enclosing_class", .optText c.enclosingClass),
    ("source", .opt (c.source.map Origin.toJson)),
    ("annotations", .arr (c.annotations.map Annot.toJson)),
    ("fields", .arr (c.fields.map Field.toJson)),
    ("methods", .arr (c.methods.map CodeUnit.toJson)),
    ("constructors", .arr (c.constructors.map CodeUnit.toJson)),
    ("static_initializer", .opt (c.staticInitializer.map CodeUnit.toJson))]

end Record

end ClassAtlas
