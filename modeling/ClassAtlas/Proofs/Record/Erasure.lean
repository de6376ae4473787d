import Mathlib.Tactic.Common
import ClassAtlas.Record.CodeUnit

/-!
# Two ways to erase

A signature is erased by name when a code unit is looked up, and by class when it is linked.  The
two follow chains of bounds for a different number of steps, and linking erases the component of an
array on its own.

* `TypeSig.linkedName` — the name of the class that a linked signature erases to.
* `TypeSig.settlesWithin` — the erasure is found within a number of steps.
* `linkedName_eq_erasedName` — **both ways agree on what settles within the smaller number**.
-/

namespace ClassAtlas

namespace TypeSig

/-- The name that a signature erases to when it is linked, found in at most `steps` steps.  The
component of an array is erased with all steps at hand. -/
def linkedWithin (scopes : TypeScopes) : (steps : Nat) → TypeSig → String
  | 0, _ => objectClassName
  | _ + 1, .cls name => name
  | _ + 1, .parameterized raw _ => raw
  | _ + 1, .genericArray component => component.linkedWithin scopes 33 ++ "[]"
  | steps + 1, .wildcard (bound :: _) _ => bound.linkedWithin scopes steps
  | _ + 1, .wildcard [] _ => objectClassName
  | steps + 1, .variable name => TypeSig.erasedWithin (steps + 1) scopes (.variable name)

/-- The name of the class that a linked signature erases to. -/
def linkedName (sig : TypeSig) (scopes : TypeScopes) : String :=
  sig.linkedWithin scopes 33

/-- A signature that can be the bound of a type parameter: a class, a parameterized type or a type
variable. -/
def IsBound : TypeSig → Prop
  | .cls _ | .parameterized _ _ | .variable _ => True
  | .wildcard _ _ | .genericArray _ => False

instance : DecidablePred IsBound
  | .cls _ | .parameterized _ _ | .variable _ => .isTrue trivial
  | .wildcard _ _ | .genericArray _ => .isFalse id

/-- The two ways to erase differ in what cannot be a bound only. -/
lemma linkedWithin_of_isBound {sig : TypeSig} (h : sig.IsBound) {scopes : TypeScopes} {n : ℕ} :
    sig.linkedWithin scopes n = sig.erasedWithin n scopes := by
  cases n with
  | zero => rw [linkedWithin, erasedWithin]
  | succ n =>
      cases sig with
      | wildcard _ _ => exact h.elim
      | genericArray _ => exact h.elim
      | _ => rw [linkedWithin] <;> rfl

/-- Whether the erasure is found in at most `steps` steps. -/
def settlesWithin : (steps : Nat) → TypeScopes → TypeSig → Bool
  | 0, _, _ => false
  | steps + 1, scopes, sig =>
    match sig with
    | .cls _ | .parameterized _ _ | .wildcard [] _ => true
    | .genericArray component => settlesWithin steps scopes component
    | .wildcard (bound :: _) _ => settlesWithin steps scopes bound
    | .variable name =>
      match declarationOf name scopes with
      | some (⟨_, bound :: _⟩, outward) => settlesWithin steps outward bound
      | some (⟨_, []⟩, _) | none => true

/-- More steps do not change what is settled. -/
lemma erasedWithin_of_le {n k : ℕ} {scopes : TypeScopes} {sig : TypeSig}
    (h : sig.settlesWithin n scopes = true) (hle : n ≤ k) :
    sig.erasedWithin k scopes = sig.erasedWithin n scopes := by
  induction n generalizing k scopes sig with
  | zero => cases h
  | succ n ih =>
      obtain ⟨k, rfl⟩ := Nat.exists_eq_add_of_le' (Nat.one_le_of_lt hle)
      have hle' : n ≤ k := Nat.le_of_succ_le_succ hle
      cases sig with
      | cls name => rfl
      | parameterized raw arguments => rfl
      | genericArray component => rw [erasedWithin, erasedWithin, ih h hle']
      | wildcard upper lower =>
          cases upper with
          | nil => rfl
          | cons bound upper => exact ih h hle'
      | «variable» name =>
          rcases hdeclared : declarationOf name scopes with _ | ⟨⟨_, _ | ⟨bound, _⟩⟩, outward⟩
          · simp only [erasedWithin, hdeclared]
          · simp only [erasedWithin, hdeclared]
          · simp only [settlesWithin, hdeclared] at h
            simp only [erasedWithin, hdeclared]
            exact ih h hle'

/-- What is settled by name within no more steps than linking has is linked to the same name. -/
lemma linkedWithin_of_settles {n k : ℕ} {scopes : TypeScopes} {sig : TypeSig}
    (h : sig.settlesWithin n scopes = true) (hle : n ≤ k) (hmax : n ≤ 33) :
    sig.linkedWithin scopes k = sig.erasedWithin n scopes := by
  induction n generalizing k sig with
  | zero => cases h
  | succ n ih =>
      obtain ⟨k, rfl⟩ := Nat.exists_eq_add_of_le' (Nat.one_le_of_lt hle)
      have hle' : n ≤ k := Nat.le_of_succ_le_succ hle
      have hmax' : n ≤ 33 := Nat.le_of_succ_le hmax
      cases sig with
      | cls name => rw [linkedWithin, erasedWithin]
      | parameterized raw arguments => rw [linkedWithin, erasedWithin]
      | genericArray component => rw [linkedWithin, erasedWithin, ih h hmax' hmax']
      | wildcard upper lower =>
          cases upper with
          | nil => rw [linkedWithin, erasedWithin]
          | cons bound upper =>
              rw [linkedWithin, erasedWithin]
              exact ih h hle' hmax'
      | «variable» name =>
          rw [linkedWithin]
          exact erasedWithin_of_le h hle

/-- **Both ways to erase agree on what settles within the smaller number of steps.** -/
theorem linkedName_eq_erasedName {scopes : TypeScopes} {sig : TypeSig}
    (h : sig.settlesWithin 17 scopes = true) : sig.linkedName scopes = sig.erasedName scopes :=
  linkedWithin_of_settles h (by decide) (by decide)

end TypeSig

namespace Record

namespace CodeUnit

/-- The descriptor of a code unit once it is linked: the recorded one, or the one of its linked
types. -/
def linkedDescriptor (u : CodeUnit) (classScopes : TypeScopes) : String :=
  u.descriptor.getD (methodDescriptor
    (u.parameters.map fun p => p.type.linkedName (u.typeParameters :: classScopes))
    (u.returns.linkedName (u.typeParameters :: classScopes)))

/-- Whether a code unit has a recorded descriptor, or all types of its signature settle within the
steps that erasing by name takes. -/
def settles (u : CodeUnit) (classScopes : TypeScopes) : Bool :=
  u.descriptor.isSome || (u.returns :: u.parameters.map (·.type)).all fun sig =>
    sig.settlesWithin 17 (u.typeParameters :: classScopes)

/-- The descriptor of a code unit that settles does not change by linking. -/
lemma linkedDescriptor_of_settles {u : CodeUnit} {classScopes : TypeScopes}
    (h : u.settles classScopes = true) :
    u.linkedDescriptor classScopes = u.descriptorIn classScopes := by
  rw [linkedDescriptor, descriptorIn]
  rcases hdescriptor : u.descriptor with _ | recorded
  · simp only [settles, hdescriptor, Option.isSome_none, Bool.false_or, List.all_cons,
      Bool.and_eq_true, List.all_map, List.all_eq_true] at h
    have hparameters : u.parameters.map (fun p =>
        p.type.linkedName (u.typeParameters :: classScopes)) = u.erasedParameters classScopes :=
      List.map_congr_left fun p hp => TypeSig.linkedName_eq_erasedName (h.2 p hp)
    rw [Option.getD_none, hparameters, TypeSig.linkedName_eq_erasedName h.1]
  · rfl

end CodeUnit

end Record

end ClassAtlas
