import ClassAtlas.Text.WordChar

/-!
# Expressions over texts

A package pattern is read as an expression, and a package name matches if the expression derives a
part of it.

* `CharSet` — the sets of characters that patterns speak of.
* `Expr` — expressions.
* `Expr.Derives` — the texts an expression derives between two ends.
-/

namespace ClassAtlas.PackagePattern

/-- A set of characters. -/
inductive CharSet where
  | exactly (c : Char)
  /-- Word characters and `$`. -/
  | word
  /-- All characters but the line feed. -/
  | any
deriving DecidableEq, Repr, Inhabited

/-- Membership in a set of characters. -/
def CharSet.has : CharSet → Char → Bool
  | .exactly d, c => c == d
  | .word, c => Text.isWordChar c || c == '$'
  | .any, c => c != '\n'

/-- An expression. -/
inductive Expr where
  | empty
  /-- One character of the set. -/
  | one (set : CharSet)
  /-- A run of characters of the set, as long as possible. -/
  | many (set : CharSet)
  | seq (first second : Expr)
  /-- Either branch, the first if possible. -/
  | alt (first second : Expr)
  /-- Captures what the body derives as group `index`. -/
  | group (index : Nat) (body : Expr)
  /-- Nothing, at the start of the text. -/
  | start
  /-- Nothing, at the end of the text. -/
  | finish
deriving DecidableEq, Repr, Inhabited

/-- `Derives e before part after`: in the text `before ++ part ++ after`, the expression derives
`part`. -/
inductive Expr.Derives : Expr → List Char → List Char → List Char → Prop where
  | empty {before after : List Char} : Derives .empty before [] after
  | one {set : CharSet} {before after : List Char} {c : Char} (h : set.has c = true) :
      Derives (.one set) before [c] after
  | many {set : CharSet} {before part after : List Char} (h : ∀ c ∈ part, set.has c = true) :
      Derives (.many set) before part after
  | seq {a b : Expr} {before part part' after : List Char}
      (ha : Derives a before part (part' ++ after))
      (hb : Derives b (before ++ part) part' after) :
      Derives (.seq a b) before (part ++ part') after
  | altFirst {a b : Expr} {before part after : List Char} (h : Derives a before part after) :
      Derives (.alt a b) before part after
  | altSecond {a b : Expr} {before part after : List Char} (h : Derives b before part after) :
      Derives (.alt a b) before part after
  | group {index : Nat} {body : Expr} {before part after : List Char}
      (h : Derives body before part after) : Derives (.group index body) before part after
  | start {after : List Char} : Derives .start [] [] after
  | finish {before : List Char} : Derives .finish before [] []

end ClassAtlas.PackagePattern
