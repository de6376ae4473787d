/-!
# Modifiers

The modifiers of classes and members as the class file has them.  Every listing of modifiers is in
the order of `Modifier.all`, without repetition.

* `Modifier` — one modifier.
* `Modifiers` — a set of modifiers.
-/

namespace ClassAtlas

/-- A modifier of a class or a member. -/
inductive Modifier where
  | publicAccess
  | protectedAccess
  | privateAccess
  | static
  | final
  | volatile
  | transient
  | abstract
  | synchronized
  | native
  | bridge
  | synthetic
  | enum
deriving DecidableEq, Repr, Inhabited

namespace Modifier

/-- All modifiers, in the order in which they are listed. -/
def all : List Modifier :=
  [.publicAccess, .protectedAccess, .privateAccess, .static, .final, .volatile, .transient,
    .abstract, .synchronized, .native, .bridge, .synthetic, .enum]

/-- The keyword of a modifier. -/
def text : Modifier → String
  | .publicAccess => "public"
  | .protectedAccess => "protected"
  | .privateAccess => "private"
  | .static => "static"
  | .final => "final"
  | .volatile => "volatile"
  | .transient => "transient"
  | .abstract => "abstract"
  | .synchronized => "synchronized"
  | .native => "native"
  | .bridge => "bridge"
  | .synthetic => "synthetic"
  | .enum => "enum"

/-- The modifier with this keyword. -/
def ofText? (word : String) : Option Modifier :=
  all.find? fun m => m.text == word

/-- Reads a keyword, or says that it is none. -/
def parse (word : String) : Except String Modifier :=
  match ofText? word with
  | some m => .ok m
  | none => .error ("unknown modifier: " ++ word)

end Modifier

/-- A set of modifiers. -/
structure Modifiers where
  has : Modifier → Bool

namespace Modifiers

/-- No modifier. -/
def none : Modifiers :=
  ⟨fun _ => false⟩

instance : Inhabited Modifiers :=
  ⟨none⟩

/-- The modifiers of a list. -/
def ofList (ms : List Modifier) : Modifiers :=
  ⟨fun m => ms.contains m⟩

/-- The modifiers of the set, in order. -/
def toList (s : Modifiers) : List Modifier :=
  Modifier.all.filter s.has

/-- The set with the modifiers of a list added. -/
def add (s : Modifiers) (ms : List Modifier) : Modifiers :=
  ⟨fun m => s.has m || ms.contains m⟩

/-- The keywords of the set, in order. -/
def texts (s : Modifiers) : List String :=
  s.toList.map Modifier.text

/-- Every modifier is listed among all of them. -/
theorem mem_all (m : Modifier) : m ∈ Modifier.all := by
  cases m <;> decide

/-- A modifier is listed iff the set has it. -/
theorem mem_toList {s : Modifiers} {m : Modifier} : m ∈ s.toList ↔ s.has m = true := by
  simp [toList, mem_all]

/-- A set is made up again from its listing. -/
theorem ofList_toList (s : Modifiers) : ofList s.toList = s := by
  have h : (fun m => s.toList.contains m) = s.has := by
    funext m
    rw [Bool.eq_iff_iff, List.contains_iff_mem, mem_toList]
  show (⟨fun m => s.toList.contains m⟩ : Modifiers) = s
  rw [h]

end Modifiers

end ClassAtlas
