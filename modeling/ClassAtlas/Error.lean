import ClassAtlas.Phase
import ClassAtlas.Text.Quoted

/-!
# Errors

What can go wrong while names are read and batches are linked, and the wording of each.  That a
class or a member is unknown is never an error: it is an absent value.
-/

namespace ClassAtlas

/-- What is wrong with a package pattern. -/
inductive PatternFault where
  | tooManyDots
  | unbalancedGroups
  /-- A group is closed that was not opened. -/
  | unopenedGroup
  /-- A group is still open at the end. -/
  | unclosedGroup
  /-- Groups, runs and choices are nested too deeply. -/
  | tooDeep
  /-- The expression takes too much room. -/
  | tooLarge
deriving DecidableEq, Repr

/-- The wording of a fault. -/
def PatternFault.text : PatternFault → String
  | .tooManyDots => "more than two consecutive dots"
  | .unbalancedGroups => "unbalanced capture group"
  | .unopenedGroup => "unopened group"
  | .unclosedGroup => "unclosed group"
  | .tooDeep => "exceed the maximum number of nested parentheses/brackets (250)"
  | .tooLarge => "Compiled regex exceeds size limit of 10485760 bytes."

/-- An error of the model. -/
inductive ModelError where
  /-- A phase was asked for while the linker was not at the phase before it. -/
  | phaseOrder (expected actual : Phase)
  | invalidTypeName (name : String)
  | invalidPackagePattern (pattern : String) (fault : PatternFault)
  | unknownCodeUnit (owner name descriptor : String)
deriving DecidableEq, Repr

/-- The wording of an error. -/
def ModelError.message : ModelError → String
  | .phaseOrder expected actual =>
    "completion phase out of order: expected " ++ expected.text ++ ", but the engine is at " ++
      actual.text
  | .invalidTypeName name => "invalid type name: " ++ Text.quoted name
  | .invalidPackagePattern pattern fault =>
    "invalid package pattern " ++ Text.quoted pattern ++ ": " ++ fault.text
  | .unknownCodeUnit owner name descriptor =>
    "unknown code unit " ++ owner ++ "." ++ name ++ descriptor

end ClassAtlas
