import ClassAtlas.PackagePattern.Expr

/-!
# The preferred derivation

Of several derivations in a text, the first in order of preference tells what the groups capture:
it starts as far to the left as possible, its runs are as long as possible, and it takes the left
branch of a choice if it can.

Whether a derivation can be completed depends on its place in the text alone.  So the places from
which an expression leads to a goal are worked out first, from the end backwards; the preferred
derivation is then a single walk that never has to turn back.

* `Goal` — a set of places.
* `Expr.reach` — the places from which an expression derives a text that ends at a goal.
* `Expr.follow` — the preferred derivation from one place to a goal.
* `Expr.search` — what the groups capture in the preferred derivation of all.
-/

namespace ClassAtlas.PackagePattern

/-! ## Places that lead to a goal -/

/-- A set of places in a text, each given by the number of characters before it. -/
abbrev Goal :=
  List Nat

/-- For each place of a text with `size` characters, whether it is in the set. -/
def Goal.marks (goal : Goal) (size : Nat) : Array Bool :=
  goal.foldl (fun marks place => marks.setIfInBounds place true) (Array.replicate (size + 1) false)

/-- The places of either set, those of both only once. -/
def Goal.union (size : Nat) (goal goal' : Goal) : Goal :=
  let marks := goal.marks size
  goal ++ goal'.filter fun place => !(marks[place]?.getD false)

/-- The places that are one character of a set before a goal. -/
def beforeOne (set : CharSet) (text : Array Char) (goal : Goal) : Goal :=
  goal.filterMap fun
    | 0 => none
    | place + 1 => if (text[place]?).any set.has then some place else none

/-- The places that are a run of characters of a set before a goal: the goal itself, and each place
that is one character of the set before a place found already. -/
def beforeRun (set : CharSet) (text : Array Char) (goal : Goal) : Goal :=
  let marks := goal.marks text.size
  (List.range (text.size + 1)).foldr
    (fun place found =>
      if marks[place]?.getD false || (found.head? == some (place + 1) && (text[place]?).any set.has)
      then place :: found
      else found)
    []

/-- The places from which an expression derives a text that ends at a goal. -/
def Expr.reach (text : Array Char) : Expr → Goal → Goal
  | .empty, goal => goal
  | .one set, goal => beforeOne set text goal
  | .many set, goal => beforeRun set text goal
  | .seq first second, goal => first.reach text (second.reach text goal)
  | .alt first second, goal =>
    Goal.union text.size (first.reach text goal) (second.reach text goal)
  | .group _ body, goal => body.reach text goal
  | .start, goal => if goal.contains 0 then [0] else []
  | .finish, goal => if goal.contains text.size then [text.size] else []

/-! ## One derivation -/

/-- What groups have captured, the last one first. -/
abbrev Captures :=
  List (Nat × List Char)

/-- A derivation that has come to a place in a text, with what groups have captured so far. -/
structure Thread where
  place : Nat
  captures : Captures
deriving DecidableEq, Repr, Inhabited

/-- The thread `t` with the text since `s` captured. -/
def Thread.capture (t s : Thread) (text : Array Char) (index : Nat) : Thread :=
  { t with captures := (index, (text.extract s.place t.place).toList) :: t.captures }

/-- The end of the longest run of characters of a set that starts at a place and ends at a goal. -/
def longestRun? (set : CharSet) (text : Array Char) (goal : Goal) (place : Nat) : Option Nat :=
  let run := ((text.extract place text.size).toList.takeWhile set.has).length
  (goal.filter fun stop => place ≤ stop && stop ≤ place + run).max?

/-- The preferred derivation from a thread to a goal. -/
def Expr.follow (text : Array Char) : Expr → Goal → Thread → Option Thread
  | .empty, _, t => some t
  | .one set, _, t =>
    if (text[t.place]?).any set.has then some { t with place := t.place + 1 } else none
  | .many set, goal, t =>
    (longestRun? set text goal t.place).map fun stop => { t with place := stop }
  | .seq first second, goal, t =>
    (first.follow text (second.reach text goal) t).bind fun u => second.follow text goal u
  | .alt first second, goal, t =>
    if (first.reach text goal).contains t.place then first.follow text goal t
    else second.follow text goal t
  | .group index body, goal, t =>
    (body.follow text goal t).map fun u => u.capture t text index
  | .start, _, t => if t.place = 0 then some t else none
  | .finish, _, t => if t.place = text.size then some t else none

/-- The captures of the preferred derivation of all: it starts at the first place from which any
place can be reached. -/
def Expr.search (e : Expr) (text : Array Char) : Option Captures :=
  let goal := List.range (text.size + 1)
  (e.reach text goal).min?.bind fun place =>
    (e.follow text goal ⟨place, []⟩).map fun t => t.captures

end ClassAtlas.PackagePattern
