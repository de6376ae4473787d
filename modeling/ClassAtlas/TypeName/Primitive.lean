/-!
# Primitive types

The primitive types of the Java language and `void`, each with its keyword and with the letter that
stands for it in a class file.
-/

namespace ClassAtlas

/-- A primitive type, or `void`. -/
inductive Primitive where
  | boolean
  | byte
  | char
  | short
  | int
  | long
  | float
  | double
  | void
deriving DecidableEq, Repr, Inhabited

namespace Primitive

/-- The keyword of a primitive type. -/
def keyword : Primitive → String
  | .boolean => "boolean"
  | .byte => "byte"
  | .char => "char"
  | .short => "short"
  | .int => "int"
  | .long => "long"
  | .float => "float"
  | .double => "double"
  | .void => "void"

/-- The letter of a primitive type in a class file. -/
def code : Primitive → Char
  | .boolean => 'Z'
  | .byte => 'B'
  | .char => 'C'
  | .short => 'S'
  | .int => 'I'
  | .long => 'J'
  | .float => 'F'
  | .double => 'D'
  | .void => 'V'

/-- All primitive types. -/
def all : List Primitive :=
  [.boolean, .byte, .char, .short, .int, .long, .float, .double, .void]

/-- The primitive type with this keyword. -/
def ofKeyword? (word : String) : Option Primitive :=
  all.find? fun p => p.keyword == word

/-- The primitive type with this letter. -/
def ofCode? (c : Char) : Option Primitive :=
  all.find? fun p => p.code == c

end Primitive

end ClassAtlas
