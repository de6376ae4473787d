import ClassAtlas.Error
import ClassAtlas.PackagePattern.Expr
import ClassAtlas.Text.Cut

/-!
# Reading package patterns

In a pattern such as `com.(*)..[api|spi]`

* `..` stands for any number of packages, none included,
* `*` stands for a run of word characters and `$`,
* `( )` captures what it encloses,
* `[a|b]` stands for one of its branches.

A pattern is cut into pieces: atoms, and marks that open, divide and close groups.  A closing
bracket closes the group opened last, whichever bracket opened it, and the dots of a `..` end what a
`[` began, so that `]` and `|` behind them are ordinary characters.

* `pieces` — the pieces of a pattern.
* `Reading` — a way to make something of the parts of a pattern.
* `assemble` — what a reading makes of all pieces.
-/

namespace ClassAtlas.PackagePattern

/-- A part of a pattern that has no parts of its own. -/
inductive Atom where
  /-- The start of the name. -/
  | start
  /-- The end of the name. -/
  | finish
  | char (c : Char)
  /-- A `*`. -/
  | star
  /-- A `..` that is the whole pattern. -/
  | anything
  /-- A `..` in front. -/
  | leadingGap
  /-- A `..` at the end. -/
  | trailingGap
  /-- Any other `..`. -/
  | innerGap
deriving DecidableEq, Repr, Inhabited

/-- A piece of a pattern. -/
inductive Piece where
  | atom (a : Atom)
  /-- Opens a group that captures. -/
  | openGroup
  /-- Opens a group of branches. -/
  | openBranches
  | close
  /-- Divides the branches of a group. -/
  | bar
deriving DecidableEq, Repr, Inhabited

/-! ## Cutting into pieces -/

/-- The pieces of a text without `..`; `inBranches` while a `[` waits for its `]`. -/
def segmentPieces (inBranches : Bool) : List Char → List Piece
  | [] => []
  | c :: rest =>
    if c = '*' then .atom .star :: segmentPieces inBranches rest
    else if c = '(' then .openGroup :: segmentPieces inBranches rest
    else if c = ')' then .close :: segmentPieces inBranches rest
    else if c = '[' then .openBranches :: segmentPieces true rest
    else if c = ']' ∧ inBranches then .close :: segmentPieces false rest
    else if c = '|' ∧ inBranches then .bar :: segmentPieces inBranches rest
    else .atom (.char c) :: segmentPieces inBranches rest

/-- The pieces of the segments that follow a `..`, each behind its gap. -/
def gapPieces (leading : Bool) : List (List Char) → List Piece
  | [] => []
  | segment :: segments =>
    let gap : Atom :=
      if leading then .leadingGap
      else if segments.isEmpty && segment.isEmpty then .trailingGap
      else .innerGap
    .atom gap :: segmentPieces false segment ++ gapPieces false segments

/-- The pieces of a pattern. -/
def pieces (pattern : List Char) : List Piece :=
  if pattern = ['.', '.'] then [.atom .anything]
  else
    match Text.splitOnPair '.' pattern with
    | [] => []
    | segment :: segments => segmentPieces false segment ++ gapPieces segment.isEmpty segments

/-! ## Putting pieces together -/

/-- A way to make something of the parts of a pattern. -/
structure Reading (α : Type) where
  atom : Atom → α
  sequence : List α → α
  /-- A choice between two or more branches. -/
  choice : List α → α
  /-- A group with its number, if it captures. -/
  group : Option Nat → α → α

/-- A group that is open: its branches so far and the items of the current branch, the last one
first in both. -/
structure OpenGroup (α : Type) where
  /-- The number of the group, if it captures. -/
  index : Option Nat
  branches : List α
  items : List α

/-- The current branch continued. -/
def OpenGroup.push {α : Type} (g : OpenGroup α) (item : α) : OpenGroup α :=
  { g with items := item :: g.items }

/-- The current branch ended, and another one begun. -/
def OpenGroup.divide {α : Type} (r : Reading α) (g : OpenGroup α) : OpenGroup α :=
  { g with branches := r.sequence g.items.reverse :: g.branches, items := [] }

/-- What a group holds when it is complete. -/
def OpenGroup.body {α : Type} (r : Reading α) (g : OpenGroup α) : α :=
  match (g.divide r).branches with
  | [branch] => branch
  | branches => r.choice branches.reverse

/-- The groups that are open: the innermost, and those around it. -/
structure OpenGroups (α : Type) where
  inner : OpenGroup α
  outer : List (OpenGroup α)
  /-- The number of capturing groups so far. -/
  groups : Nat

/-- The groups that are open after one more piece. -/
def OpenGroups.step {α : Type} (r : Reading α) (s : OpenGroups α) :
    Piece → Except PatternFault (OpenGroups α)
  | .atom a => .ok { s with inner := s.inner.push (r.atom a) }
  | .bar => .ok { s with inner := s.inner.divide r }
  | .openGroup => .ok ⟨⟨some s.groups, [], []⟩, s.inner :: s.outer, s.groups + 1⟩
  | .openBranches => .ok ⟨⟨none, [], []⟩, s.inner :: s.outer, s.groups⟩
  | .close =>
    match s.outer with
    | [] => .error .unopenedGroup
    | around :: outer =>
      .ok ⟨around.push (r.group s.inner.index (s.inner.body r)), outer, s.groups⟩

/-- What a reading makes of pieces, with the number of capturing groups. -/
def assemble {α : Type} (r : Reading α) (ps : List Piece) : Except PatternFault (α × Nat) := do
  let s ← ps.foldlM (OpenGroups.step r) ⟨⟨none, [], []⟩, [], 0⟩
  match s.outer with
  | [] => .ok (s.inner.body r, s.groups)
  | _ :: _ => .error .unclosedGroup

/-! ## Expressions -/

/-- A dot. -/
def dot : Expr :=
  .one (.exactly '.')

/-- The expression of an atom. -/
def Atom.expr : Atom → Expr
  | .start => .start
  | .finish => .finish
  | .char c => .one (.exactly c)
  | .star => .many .word
  | .anything => .many .any
  | .leadingGap => .alt (.seq (.many .any) dot) .empty
  | .trailingGap => .alt (.seq dot (.many .any)) .empty
  | .innerGap => .alt dot (.seq dot (.seq (.many .any) dot))

/-- The choice between the expressions of a list. -/
def Expr.ofBranches : List Expr → Expr
  | [] => .empty
  | [e] => e
  | e :: es => .alt e (Expr.ofBranches es)

/-- Patterns read as expressions. -/
def Expr.reading : Reading Expr where
  atom := Atom.expr
  sequence items := items.foldl .seq .empty
  choice := Expr.ofBranches
  group index body :=
    match index with
    | some index => .group index body
    | none => body

end ClassAtlas.PackagePattern
