import ClassAtlas.PackagePattern.Pieces
import ClassAtlas.Text.Encoding

/-!
# Shapes of patterns

Before a pattern is made an automaton, it is brought into a simpler shape: characters that follow
each other become one literal, sequences and choices are not nested in their own kind, a choice
between single characters becomes a set, and what all branches of a choice begin with is taken out
of it. How much room the automaton takes depends on the shape.

* `Shape` — shapes.
* `Shape.ofItems`, `Shape.ofBranches` — sequences and choices in their simplest shape.
* `Shape.reading` — patterns read as shapes.
-/

namespace ClassAtlas.PackagePattern

/-- The shape of a pattern. -/
inductive Shape where
  | empty
  | literal (chars : List Char)
  /-- One character of a set. -/
  | set (ranges : Text.Ranges)
  /-- The start or the end of the name. -/
  | edge (a : Atom)
  /-- A run of characters of a set. -/
  | run (chars : CharSet)
  | optional (body : Shape)
  | group (index : Nat) (body : Shape)
  | sequence (items : List Shape)
  | choice (branches : List Shape)
deriving Inhabited

namespace Shape

/-! ## Equality -/

mutual

/-- Whether two shapes are equal. -/
def same : Shape → Shape → Bool
  | .empty, .empty => true
  | .literal chars, .literal chars' => chars == chars'
  | .set ranges, .set ranges' => ranges == ranges'
  | .edge a, .edge a' => a == a'
  | .run chars, .run chars' => chars == chars'
  | .optional body, .optional body' => body.same body'
  | .group index body, .group index' body' => index == index' && body.same body'
  | .sequence items, .sequence items' => sameAll items items'
  | .choice bs, .choice bs' => sameAll bs bs'
  | _, _ => false

/-- Whether two lists of shapes are equal. -/
def sameAll : List Shape → List Shape → Bool
  | [], [] => true
  | s :: rest, s' :: rest' => s.same s' && sameAll rest rest'
  | _, _ => false

end

/-- The shapes with which both lists begin. -/
def commonItems : List Shape → List Shape → List Shape
  | s :: rest, s' :: rest' => if s.same s' then s :: commonItems rest rest' else []
  | _, _ => []

/-! ## Sequences -/

/-- The items that a shape contributes to a sequence. -/
def items : Shape → List Shape
  | .empty => []
  | .sequence items => items
  | s => [s]

/-- Adds an item in front of others; two literals become one. -/
def consItem : Shape → List Shape → List Shape
  | .literal chars, .literal chars' :: rest => .literal (chars ++ chars') :: rest
  | s, rest => s :: rest

/-- The sequence of shapes. -/
def ofItems (parts : List Shape) : Shape :=
  match (parts.flatMap items).foldr consItem [] with
  | [] => .empty
  | [s] => s
  | items => .sequence items

/-! ## Choices -/

/-- The branches that a shape contributes to a choice. -/
def branches : Shape → List Shape
  | .choice bs => bs
  | s => [s]

/-- The shape of a set of characters. -/
def ofRanges (ranges : Text.Ranges) : Shape :=
  match ranges with
  | [(first, last)] => if first = last then .literal [Char.ofNat first] else .set ranges
  | _ => .set ranges

/-- The only character of a literal, as a range. -/
def char? : Shape → Option (Nat × Nat)
  | .literal [c] => some (c.toNat, c.toNat)
  | _ => none

/-- The ranges of a set. -/
def ranges? : Shape → Option Text.Ranges
  | .set ranges => some ranges
  | _ => none

/-- The items of a sequence; other shapes are not looked into. -/
def ownItems : Shape → List Shape
  | .sequence items => items
  | _ => []

/-- The items with which all branches begin. -/
def commonStart : List Shape → List Shape
  | [] => []
  | s :: rest => rest.foldl (fun found s => commonItems found s.ownItems) s.ownItems

/-- The choice between branches; what they all begin with is taken out at most `depth` times. -/
def choose : (depth : Nat) → (bs : List Shape) → Shape
  | depth, bs =>
    match bs.flatMap branches with
    | [] => .empty
    | [s] => s
    | bs =>
      match bs.mapM char?, bs.mapM ranges? with
      | some chars, _ => ofRanges (.ofRanges chars)
      | _, some sets => ofRanges (.ofRanges sets.flatten)
      | none, none =>
        match depth, commonStart bs with
        | depth + 1, s :: start =>
          let rest := bs.map fun b => ofItems (b.ownItems.drop (start.length + 1))
          ofItems (s :: start ++ [choose depth rest])
        | _, _ => .choice bs

mutual

/-- The number of shapes that a shape is made of. -/
def size : Shape → Nat
  | .optional body => body.size + 1
  | .group _ body => body.size + 1
  | .sequence items => sizeAll items + 1
  | .choice bs => sizeAll bs + 1
  | _ => 1

/-- The number of shapes that the shapes of a list are made of. -/
def sizeAll : List Shape → Nat
  | [] => 0
  | s :: rest => s.size + sizeAll rest

end

/-- The choice between branches.  Each time that something is taken out, less is left. -/
def ofBranches (bs : List Shape) : Shape :=
  choose (sizeAll bs) bs

/-! ## Patterns -/

/-- The shape of an atom. -/
def ofAtom : Atom → Shape
  | .start => .edge .start
  | .finish => .edge .finish
  | .char c => .literal [c]
  | .star => .run .word
  | .anything => .run .any
  | .leadingGap => .optional (ofItems [.run .any, .literal ['.']])
  | .trailingGap => .optional (ofItems [.literal ['.'], .run .any])
  | .innerGap =>
    ofBranches [.literal ['.'], ofItems [.literal ['.'], .run .any, .literal ['.']]]

/-- Patterns read as shapes. -/
def reading : Reading Shape where
  atom := ofAtom
  sequence := ofItems
  choice := ofBranches
  group index body :=
    match index with
    | some index => .group index body
    | none => body

end Shape

end ClassAtlas.PackagePattern
