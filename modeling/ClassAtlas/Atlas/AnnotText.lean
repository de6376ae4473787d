import ClassAtlas.Atlas.Basic
import ClassAtlas.Settings.Basic

/-!
# The text of annotations

Annotations as they would stand in source code, such as `@a.Marker(type=a.Foo.class)`.
-/

namespace ClassAtlas.AnnotFormat

/-- The items of an array in brackets. -/
def brackets (f : AnnotFormat) (items : List String) : String :=
  match f.arrayStyle with
  | .curly => "\x7b" ++ ", ".intercalate items ++ "\x7d"
  | .square => "[" ++ ", ".intercalate items ++ "]"

/-- An annotation, given the texts of its properties. -/
def assemble (f : AnnotFormat) (typeName : String) : List (String × String) → String
  | [] => "@" ++ typeName
  | [(name, value)] =>
    if name == "value" && f.omitSingleValueName then "@" ++ typeName ++ "(" ++ value ++ ")"
    else "@" ++ typeName ++ "(" ++ name ++ "=" ++ value ++ ")"
  | properties =>
    "@" ++ typeName ++ "(" ++
      ", ".intercalate (properties.map fun (name, value) => name ++ "=" ++ value) ++ ")"

mutual

/-- The text of a value. -/
def valueText (f : AnnotFormat) (a : Atlas) : AnnotValue → String
  | .boolean value => if value then "true" else "false"
  | .byte value | .short value | .int value | .long value => toString value
  | .char value => "'" ++ String.singleton value ++ "'"
  | .float value => value.text
  | .double value => value.text
  | .string value => if f.quoteStrings then "\"" ++ value ++ "\"" else value
  | .cls id => (a.cls id).fullName ++ f.classSuffix
  | .enumConstant enumType name => (a.cls enumType).name ++ "." ++ name
  | .nested type properties =>
    f.assemble (a.cls type).name (propertyTexts f a properties)
  | .array items => f.brackets (valueTexts f a items)

def propertyTexts (f : AnnotFormat) (a : Atlas) :
    List (String × AnnotValue) → List (String × String)
  | [] => []
  | (name, value) :: rest => (name, valueText f a value) :: propertyTexts f a rest

def valueTexts (f : AnnotFormat) (a : Atlas) : List AnnotValue → List String
  | [] => []
  | value :: rest => valueText f a value :: valueTexts f a rest

end

/-- The text of an annotation. -/
def text (f : AnnotFormat) (a : Atlas) (annot : Annot) : String :=
  f.assemble (a.cls annot.type).name (f.propertyTexts a annot.properties)

end ClassAtlas.AnnotFormat
