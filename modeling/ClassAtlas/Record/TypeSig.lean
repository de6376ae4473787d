/-!
# Type signatures

A type as a generic signature writes it, referring to classes and type variables by name.

* `TypeSig` — a signature; `TypeParam` — a declared type parameter with its bounds.
* `TypeSig.erasedName` — the name of the class it erases to.
-/

namespace ClassAtlas

/-- The name of the class that every class derives from. -/
def objectClassName : String :=
  "java.lang.Object"

/-- A type in a generic signature. -/
inductive TypeSig where
  | cls (name : String)
  /-- `raw<arguments>` -/
  | parameterized (raw : String) (arguments : List TypeSig)
  | variable (name : String)
  /-- `? extends upper` or `? super lower` -/
  | wildcard (upper lower : List TypeSig)
  /-- `component[]` with a component that is generic. -/
  | genericArray (component : TypeSig)
deriving Inhabited

/-- Induction on a signature, with the hypothesis for each signature of a list in it. -/
@[elab_as_elim]
theorem TypeSig.inductionOn {P : TypeSig → Prop} (cls : ∀ name, P (.cls name))
    (parameterized : ∀ raw arguments, (∀ sig ∈ arguments, P sig) → P (.parameterized raw arguments))
    (typeVariable : ∀ name, P (.variable name))
    (wildcard : ∀ upper lower, (∀ sig ∈ upper, P sig) → (∀ sig ∈ lower, P sig) →
      P (.wildcard upper lower))
    (genericArray : ∀ component, P component → P (.genericArray component)) (sig : TypeSig) :
    P sig :=
  TypeSig.rec (motive_2 := fun sigs => ∀ sig ∈ sigs, P sig) cls parameterized typeVariable
    wildcard genericArray (fun _ h => nomatch h)
    (fun _ _ hsig hsigs _ h => by
      cases h with
      | head => exact hsig
      | tail _ h => exact hsigs _ h) sig

/-- A type parameter `name extends bounds`. -/
structure TypeParam where
  name : String
  bounds : List TypeSig
deriving Inhabited

/-- The type parameters in scope, the innermost declaration first. -/
abbrev TypeScopes :=
  List (List TypeParam)

/-- The innermost declaration of a type variable, with the scopes from its own outward: its bounds
cannot see the inner ones. -/
def declarationOf (name : String) : TypeScopes → Option (TypeParam × TypeScopes)
  | [] => none
  | scope :: outer =>
    match scope.find? fun parameter => parameter.name == name with
    | some parameter => some (parameter, scope :: outer)
    | none => declarationOf name outer

/-- The erased name, found in at most `steps` steps; a chain of bounds that is longer erases to
`java.lang.Object`. -/
def TypeSig.erasedWithin : Nat → TypeScopes → TypeSig → String
  | 0, _, _ => objectClassName
  | steps + 1, scopes, sig =>
    match sig with
    | .cls name => name
    | .parameterized raw _ => raw
    | .genericArray component => erasedWithin steps scopes component ++ "[]"
    | .wildcard (bound :: _) _ => erasedWithin steps scopes bound
    | .wildcard [] _ => objectClassName
    | .variable name =>
      match declarationOf name scopes with
      | some (⟨_, bound :: _⟩, scopes) => erasedWithin steps scopes bound
      | some (⟨_, []⟩, _) | none => objectClassName

/-- The name of the class a signature erases to.  A type variable erases to its first bound, and to
`java.lang.Object` if it has none or is not declared. -/
def TypeSig.erasedName (sig : TypeSig) (scopes : TypeScopes) : String :=
  sig.erasedWithin 17 scopes

end ClassAtlas
