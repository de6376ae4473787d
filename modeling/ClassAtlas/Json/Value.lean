import ClassAtlas.Json.Number

/-!
# JSON values

A value keeps the order of its object entries and repeated keys, because a reader may have to see
both.  A string literal can spell out half of a surrogate pair and then stands for no text; such a
literal, or an object with such a key, is a correct JSON text all the same, as long as nobody reads
it.  It is the value `broken`.
-/

namespace ClassAtlas

/-- A JSON value. -/
inductive Json where
  | null
  | bool (value : Bool)
  | num (value : Json.Number)
  | str (value : String)
  | arr (items : List Json)
  | obj (entries : List (String × Json))
  /-- A literal that spells no text, or an object with such a key. -/
  | broken
deriving Inhabited

namespace Json

/-- The integer `n`. -/
def int (n : Int) : Json :=
  .num (.ofInt n)

/-- The natural number `n`. -/
def nat (n : Nat) : Json :=
  .num (.ofInt n)

/-- An optional value, `null` if it is absent. -/
def opt : Option Json → Json
  | none => .null
  | some value => value

/-- A list of strings. -/
def strs (texts : List String) : Json :=
  .arr (texts.map .str)

end Json

end ClassAtlas
