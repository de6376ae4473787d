import ClassAtlas.PackagePattern.Automaton

/-!
# Limits on package patterns

A pattern may be nested only so deeply, and its automata may take only so much room.

* `levels` — patterns read as their number of levels, at most `maxLevels`.
* `fits` — whether a pattern keeps within `maxRoom`.
* `checkLimits` — the two limits, the nesting first.
-/

namespace ClassAtlas.PackagePattern

/-! ## Nesting -/

/-- The most levels of a pattern. -/
def maxLevels : Nat :=
  250

/-- The levels of an atom.  A `*` has three: a repetition, its set, and the union the set is made
of. A gap has four: a group, its branches, a sequence and a repetition. -/
def Atom.levels : Atom → Nat
  | .start | .finish | .char _ => 0
  | .anything => 1
  | .star => 3
  | .leadingGap | .trailingGap | .innerGap => 4

/-- Patterns read as their number of levels.  A sequence of several items, a choice and a group are
a level of their own. -/
def levels : Reading Nat where
  atom := Atom.levels
  sequence items := items.foldl max 0 + (if items.length ≤ 1 then 0 else 1)
  choice branches := branches.foldl max 0 + 1
  group _ body := body + 1

/-! ## Room -/

/-- The bytes that no piece of a pattern exceeds. -/
def maxPieceRoom : Nat :=
  131072

/-- Whether both automata of a pattern keep within the limit.  Few pieces always do. -/
def fits (ps : List Piece) (s : Shape) : Bool :=
  ps.length * maxPieceRoom ≤ maxRoom || (s.room .forward ≤ maxRoom && s.room .backward ≤ maxRoom)

/-! ## Both limits -/

/-- The limit that a pattern breaks, if it breaks one. -/
def checkLimits (ps : List Piece) : Except PatternFault Unit := do
  let (count, _) ← assemble levels ps
  if count > maxLevels then throw .tooDeep
  let (shape, _) ← assemble Shape.reading ps
  if !fits ps shape then throw .tooLarge

end ClassAtlas.PackagePattern
