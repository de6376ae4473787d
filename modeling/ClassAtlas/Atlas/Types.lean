import ClassAtlas.Atlas.Basic

/-!
# Reading linked types

* `Atlas.erasure` — the class a type erases to.
* `Atlas.typeName` — the type as it is written.
* `Atlas.involvedClasses`, `Atlas.argumentClasses` — the classes a type mentions.
-/

namespace ClassAtlas.Atlas

/-! ## Erasure -/

/-- The erasure, found in at most `steps` steps through bounds; a longer chain of bounds, as a
cyclic one is, erases to `java.lang.Object`. -/
def erasureWithin (a : Atlas) : (steps : Nat) → TypeRef → ClassId
  | 0, _ => object
  | steps + 1, type =>
    match type with
    | .cls id => id
    | .parameterized raw _ => raw
    | .genericArray _ erasure => erasure
    | .variable id =>
      match (a.typeVar id).bounds with
      | bound :: _ => a.erasureWithin steps bound
      | [] => object
    | .wildcard (bound :: _) _ => a.erasureWithin steps bound
    | .wildcard [] _ => object

/-- The class a type erases to: a variable or wildcard to its first upper bound. -/
def erasure (a : Atlas) (type : TypeRef) : ClassId :=
  a.erasureWithin 33 type

/-! ## The text of a type -/

mutual

/-- The type as it is written, such as `java.util.Map<K, ? extends java.lang.Number>`. -/
def typeName (a : Atlas) : TypeRef → String
  | .cls id => (a.cls id).name
  | .parameterized raw arguments =>
    (a.cls raw).name ++ "<" ++ ", ".intercalate (a.typeNames arguments) ++ ">"
  | .variable id => (a.typeVar id).name
  | .wildcard [] [] => "?"
  | .wildcard [] lower => "? super " ++ " & ".intercalate (a.typeNames lower)
  | .wildcard upper _ => "? extends " ++ " & ".intercalate (a.typeNames upper)
  | .genericArray component _ => a.typeName component ++ "[]"

def typeNames (a : Atlas) : List TypeRef → List String
  | [] => []
  | type :: types => a.typeName type :: a.typeNames types

end

/-! ## The classes of a type -/

/-- The classes and the type variables met so far, in order. -/
structure Met where
  classes : List ClassId := []
  typeVars : List VarId := []

/-- Meets a class, which is listed once. -/
def Met.addClass (met : Met) (id : ClassId) : Met :=
  if id ∈ met.classes then met else { met with classes := met.classes ++ [id] }

mutual

/-- Meets the classes of a type, given what it means to meet a variable. -/
def meetType (meetVariable : VarId → Met → Met) : TypeRef → Met → Met
  | .cls id, met => met.addClass id
  | .parameterized raw arguments, met => meetTypes meetVariable arguments (met.addClass raw)
  | .variable id, met => meetVariable id met
  | .wildcard upper lower, met =>
    meetTypes meetVariable lower (meetTypes meetVariable upper met)
  | .genericArray component _, met => meetType meetVariable component met

def meetTypes (meetVariable : VarId → Met → Met) : List TypeRef → Met → Met
  | [], met => met
  | type :: types, met => meetTypes meetVariable types (meetType meetVariable type met)

end

/-- Meets the bounds of a variable that was not met before; at most `steps` variables are opened
inside each other. -/
def meetVariable (a : Atlas) : (steps : Nat) → VarId → Met → Met
  | 0, _, met => met
  | steps + 1, id, met =>
    if id ∈ met.typeVars then met
    else
      meetTypes (a.meetVariable steps) (a.typeVar id).bounds
        { met with typeVars := met.typeVars ++ [id] }

/-- The classes of several types, in the order in which they are met. -/
def classesOf (a : Atlas) (types : List TypeRef) : List ClassId :=
  (meetTypes (a.meetVariable (a.typeVars.size + 1)) types {}).classes

/-- Every class that a type mentions, in its bounds too. -/
def involvedClasses (a : Atlas) (type : TypeRef) : List ClassId :=
  a.classesOf [type]

/-- The classes that the arguments of a type mention. -/
def argumentClasses (a : Atlas) : TypeRef → List ClassId
  | .parameterized _ arguments => a.classesOf arguments
  | .genericArray component _ => a.argumentClasses component
  | _ => []

end ClassAtlas.Atlas
