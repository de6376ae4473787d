import ClassAtlas.Decimal.Binary

/-!
# Annotations as recorded

An annotation names its type and gives values to properties.  Properties are kept in ascending order
of their names.
-/

namespace ClassAtlas.Record

open Decimal

/-- The value of a property. -/
inductive AnnotValue where
  | boolean (value : Bool)
  | byte (value : Int)
  | char (value : Char)
  | short (value : Int)
  | int (value : Int)
  | long (value : Int)
  | float (value : Binary32)
  | double (value : Binary64)
  | string (value : String)
  /-- A class literal, by type name. -/
  | cls (typeName : String)
  | enumConstant (enumType name : String)
  | nested (type : String) (properties : List (String × AnnotValue))
  | array (items : List AnnotValue)
deriving Inhabited

/-- An annotation with the properties that are given a value. -/
structure Annot where
  type : String
  properties : List (String × AnnotValue)
deriving Inhabited

/-- Gives a property a value, in place of the value it had. -/
def setProperty {α : Type} (name : String) (value : α) : List (String × α) → List (String × α)
  | [] => [(name, value)]
  | (other, old) :: rest =>
    if name < other then (name, value) :: (other, old) :: rest
    else if name = other then (name, value) :: rest
    else (other, old) :: setProperty name value rest

/-- The properties after giving values one after the other. -/
def propertiesOf {α : Type} (entries : List (String × α)) : List (String × α) :=
  entries.foldl (fun done entry => setProperty entry.1 entry.2 done) []

end ClassAtlas.Record
