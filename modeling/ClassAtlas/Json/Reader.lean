import ClassAtlas.Json.Value

/-!
# Reading records from JSON

A reader takes a value to a record of the library, or refuses it.  It is given the number of
containers that may still be nested at its place, and passes one less on to what it finds inside a
container; what it does not look at may be nested to any depth.

* `Reader` — readers of single values: texts, numbers, lists, optional values.
* `Json.fields` — a record written as an object (unknown keys are passed over, known ones occur
  once), or as an array of its fields in order, from which fields at the end may be missing.
* `Json.isSound` — what a reader that looks at everything accepts.
-/

namespace ClassAtlas.Json

/-- A reader of values, given how many containers may still be nested. -/
abbrev Reader (α : Type) : Type :=
  Nat → Json → Option α

/-- The number of containers that may be nested in a text. -/
def depthLimit : Nat :=
  127

/-- A string. -/
def text : Reader String
  | _, .str s => some s
  | _, _ => none

/-- A truth value. -/
def flag : Reader Bool
  | _, .bool b => some b
  | _, _ => none

/-- A character: a string of exactly one. -/
def character : Reader Char
  | _, .str s =>
    match s.toList with
    | [c] => some c
    | _ => none
  | _, _ => none

/-- An integer from `low` to `high`. -/
def integer (low high : Int) : Reader Int
  | _, .num n => do
    let value ← n.toInt?
    if low ≤ value ∧ value ≤ high then some value else none
  | _, _ => none

/-- A line number: a natural number of 32 bits. -/
def line : Reader Nat
  | _, .num n => do
    let value ← n.toInt?
    if 0 ≤ value ∧ value < Nat.pow 2 32 then some value.toNat else none
  | _, _ => none

/-- A single precision number. -/
def binary32 : Reader Decimal.Binary32
  | _, .num n => n.toBinary32?
  | _, _ => none

/-- A double precision number. -/
def binary64 : Reader Decimal.Binary64
  | _, .num n => n.toBinary64?
  | _, _ => none

/-- A list of values. -/
def list {α : Type} (item : Reader α) : Reader (List α)
  | room + 1, .arr items => items.mapM (item room)
  | _, _ => none

/-- A value or `null`. -/
def optional {α : Type} (item : Reader α) : Reader (Option α)
  | _, .null => some none
  | room, value => (item room value).map some

/-- One of several named values, written as its name, or as an object with its name as the only key
and `null` as the value. -/
def choice {α : Type} (options : List (String × α)) : Reader α
  | _, .str name => options.lookup name
  | _ + 1, .obj [(name, .null)] => options.lookup name
  | _, _ => none

/-! ## Records -/

/-- The fields of a record that are present, and the room inside it. -/
structure Fields where
  room : Nat
  present : List (String × Json)

/-- The fields of a record with these field names. -/
def fields (names : List String) : Reader Fields
  | room + 1, .obj entries =>
    let known := entries.filter fun entry => names.contains entry.1
    if (known.map (·.1)).Nodup then some ⟨room, known⟩ else none
  | room + 1, .arr items =>
    if items.length ≤ names.length then some ⟨room, names.zip items⟩ else none
  | _, _ => none

/-- A field that has to be present. -/
def Fields.required {α : Type} (f : Fields) (name : String) (item : Reader α) : Option α := do
  item f.room (← f.present.lookup name)

/-- A field with the value it has when it is absent. -/
def Fields.withDefault {α : Type} (f : Fields) (name : String) (default : α) (item : Reader α) :
    Option α :=
  match f.present.lookup name with
  | some value => item f.room value
  | none => some default

/-- A list that is empty when it is absent. -/
def Fields.listOf {α : Type} (f : Fields) (name : String) (item : Reader α) : Option (List α) :=
  f.withDefault name [] (list item)

/-- A value that may be absent or `null`. -/
def Fields.maybe {α : Type} (f : Fields) (name : String) (item : Reader α) : Option (Option α) :=
  f.withDefault name none (optional item)

/-! ## Looking at everything -/

/-- Whether nothing in the value is broken, out of range or nested too deep. -/
def isSound : Nat → Json → Bool
  | _, .null | _, .bool _ | _, .str _ => true
  | _, .num n => n.toInt?.isSome || n.toFloat?.isSome
  | room + 1, .arr items => items.all (isSound room)
  | room + 1, .obj entries => entries.all fun entry => isSound room entry.2
  | 0, .arr _ | 0, .obj _ | _, .broken => false

end ClassAtlas.Json
