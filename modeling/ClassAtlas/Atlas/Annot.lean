import ClassAtlas.Atlas.Ids
import ClassAtlas.Decimal.Shortest

/-!
# Linked annotations

* `Annot` — an annotation on a class, a member or a parameter.
* `Annot.memberTypes` — the classes its values mention.
-/

namespace ClassAtlas

/-- What an annotation stands on. -/
inductive Element where
  | cls (id : ClassId)
  | member (id : MemberId)
  | parameter (member : MemberId) (position : Nat)
deriving DecidableEq, Repr, Inhabited

/-- The value of a property. -/
inductive AnnotValue where
  | boolean (value : Bool)
  | byte (value : Int)
  | char (value : Char)
  | short (value : Int)
  | int (value : Int)
  | long (value : Int)
  | float (value : Decimal.Binary32)
  | double (value : Decimal.Binary64)
  | string (value : String)
  | cls (id : ClassId)
  | enumConstant (enumType : ClassId) (name : String)
  /-- An annotation as a value; it stands on the same element as the one around it. -/
  | nested (type : ClassId) (properties : List (String × AnnotValue))
  | array (items : List AnnotValue)
deriving Inhabited

/-- An annotation.  The properties are in ascending order of their names. -/
structure Annot where
  type : ClassId
  element : Element
  properties : List (String × AnnotValue)
deriving Inhabited

namespace AnnotValue

mutual

/-- The classes that a value mentions: class literals, types of enum constants and of nested
annotations, in order. -/
def types : AnnotValue → List ClassId
  | .cls id => [id]
  | .enumConstant enumType _ => [enumType]
  | .nested type properties => type :: propertyTypes properties
  | .array items => listTypes items
  | _ => []

def propertyTypes : List (String × AnnotValue) → List ClassId
  | [] => []
  | (_, value) :: rest => value.types ++ propertyTypes rest

def listTypes : List AnnotValue → List ClassId
  | [] => []
  | value :: rest => value.types ++ listTypes rest

end

/-- What kind of value it is, in words. -/
def kindName : AnnotValue → String
  | .boolean _ => "boolean"
  | .byte _ => "byte"
  | .char _ => "char"
  | .short _ => "short"
  | .int _ => "int"
  | .long _ => "long"
  | .float _ => "float"
  | .double _ => "double"
  | .string _ => "string"
  | .cls _ => "class"
  | .enumConstant _ _ => "enum constant"
  | .nested _ _ => "annotation"
  | .array _ => "array"

/-- The text of a value that holds a single datum; a class is shown by its position. -/
def datumText? : AnnotValue → Option String
  | .boolean value => some (if value then "true" else "false")
  | .byte value | .short value | .int value | .long value => some (toString value)
  | .char value => some (String.singleton value)
  | .float value => some value.text
  | .double value => some value.text
  | .string value => some value
  | .cls id => some (toString id.index)
  | _ => none

/-- Reads the value as one of the kinds of single data, or says what it is instead. -/
def expect (kind : String) (value : AnnotValue) : Except String String :=
  match if value.kindName == kind then value.datumText? else none with
  | some text => .ok text
  | none => .error ("expected " ++ kind ++ " annotation value, got " ++ value.kindName)

end AnnotValue

/-- The classes that the values of an annotation mention. -/
def Annot.memberTypes (a : Annot) : List ClassId :=
  AnnotValue.propertyTypes a.properties

/-- Whether the property `value` is given. -/
def Annot.hasValue (a : Annot) : Bool :=
  (a.properties.lookup "value").isSome

end ClassAtlas
