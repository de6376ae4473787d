/-!
# TOML values

The values of a TOML document.  Numbers and dates are kept as they are written: nothing here needs
to calculate with them.
-/

namespace ClassAtlas

/-- A TOML value. -/
inductive Toml where
  | string (value : String)
  | integer (value : Int)
  /-- A number with a fraction or an exponent, an infinity, or no number at all. -/
  | float (text : String)
  | boolean (value : Bool)
  /-- A date, a time, or both. -/
  | datetime (text : String)
  | array (items : List Toml)
  | table (entries : List (String × Toml))
deriving Inhabited

namespace Toml

/-- Reads something at the start of a text, and returns the rest. -/
abbrev Scan (α : Type) :=
  List Char → Option (α × List Char)

/-- What is nested in each other must be fewer than this many values, and a key has fewer parts. -/
def depthLimit : Nat :=
  80

end Toml

end ClassAtlas
