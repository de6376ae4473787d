import ClassAtlas.PackagePattern.Limits
import ClassAtlas.PackagePattern.Preferred

/-!
# Package patterns

A pattern such as `..service..` or `com.(*).api` selects packages by name.

* `PackagePattern.read` — the pattern of a text, whatever its size.
* `PackagePattern.parse` — the pattern of a text, within the limits.
* `PackagePattern.captures?` — what its groups capture in a package name that matches.
* `PackagePattern.selects` — whether a package name matches.
-/

namespace ClassAtlas

/-- A pattern for package names. -/
structure PackagePattern where
  text : String
  expr : PackagePattern.Expr
  /-- The number of groups that capture. -/
  groups : Nat
deriving Inhabited

namespace PackagePattern

/-- The pieces of the expression for whole names. -/
def wholePieces (pattern : List Char) : List Piece :=
  .atom .start :: pieces pattern ++ [.atom .finish]

/-- The pattern of a text, whatever its size.  It has no three dots in a row and as many opening as
closing parentheses, and every group is opened before it is closed and closed before the end. -/
def read (text : String) : Except PatternFault PackagePattern :=
  let cs := text.toList
  if Text.occurs ['.', '.', '.'] cs then .error .tooManyDots
  else if cs.count '(' ≠ cs.count ')' then .error .unbalancedGroups
  else (assemble Expr.reading (wholePieces cs)).map fun (expr, groups) => ⟨text, expr, groups⟩

/-- The pattern of a text, if it keeps within the limits. -/
def parse (text : String) : Except ModelError PackagePattern :=
  let limited : Except PatternFault PackagePattern := do
    let p ← read text
    checkLimits (wholePieces text.toList)
    return p
  limited.mapError (ModelError.invalidPackagePattern text)

/-- What the groups capture in a package name, if it matches.  A group on a branch that was not
taken captures the empty text. -/
def captures? (p : PackagePattern) (package : String) : Option (List String) :=
  (p.expr.search package.toList.toArray).map fun captures =>
    (List.range p.groups).map fun index => String.ofList ((captures.lookup index).getD [])

/-- Whether a package name matches. -/
def selects (p : PackagePattern) (package : String) : Bool :=
  (p.captures? package).isSome

end PackagePattern

end ClassAtlas
