import ClassAtlas.Text.Cut
import ClassAtlas.TypeName.Primitive

/-!
# Descriptors of the class file

The class file writes the type of a field as `[I` or `Ljava/lang/String;`, and a method as its
parameter types between parentheses before its return type.
-/

namespace ClassAtlas

/-- The field descriptor of a type name with no brackets behind it. -/
def elementDescriptorChars (name : List Char) : List Char :=
  match name with
  | '[' :: _ => Text.replaceChar '.' '/' name
  | _ =>
    match Primitive.ofKeyword? (String.ofList name) with
    | some p => [p.code]
    | none => 'L' :: Text.replaceChar '.' '/' name ++ [';']

/-- The field descriptor of a type name that is given backwards. -/
def fieldDescriptorBackwards : List Char → List Char
  | ']' :: '[' :: front => '[' :: fieldDescriptorBackwards front
  | backwards => elementDescriptorChars backwards.reverse

/-- The field descriptor of a type name. -/
def fieldDescriptorChars (name : List Char) : List Char :=
  fieldDescriptorBackwards name.reverse

/-- The field descriptor of a type name: `[I` for `int[]`. -/
def fieldDescriptor (name : String) : String :=
  String.ofList (fieldDescriptorChars name.toList)

/-- The method descriptor of parameter types and a return type: `(Ljava/lang/String;I)V`. -/
def methodDescriptor (parameters : List String) (returns : String) : String :=
  "(" ++ String.join (parameters.map fieldDescriptor) ++ ")" ++ fieldDescriptor returns

end ClassAtlas
