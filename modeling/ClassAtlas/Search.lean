import Std.Data.HashSet

/-!
# Searching a graph

A graph is given by the list of successors of each vertex.  The searches list what they find in the
order of discovery, each vertex once, and end on cyclic graphs too: with a bound that is at least
the number of vertices, they find everything that can be reached.

* `Search.depthFirst` — a vertex, followed by what is found from each of its successors in turn.
* `Search.breadthFirst` — the start vertices, then their successors, layer by layer.
-/

namespace ClassAtlas.Search

variable {α : Type} [DecidableEq α] [Hashable α]

/-! ## Depth first -/

/-- The vertices found so far, the last one first, and the same as a set. -/
structure Found (α : Type) [DecidableEq α] [Hashable α] where
  vertices : List α
  set : Std.HashSet α
  mem_set : ∀ v, v ∈ set ↔ v ∈ vertices

/-- Nothing found. -/
def Found.empty : Found α :=
  ⟨[], ∅, by simp⟩

/-- One more vertex found. -/
def Found.push (f : Found α) (v : α) : Found α :=
  ⟨v :: f.vertices, f.set.insert v, fun w => by
    rw [Std.HashSet.mem_insert, f.mem_set, List.mem_cons, beq_iff_eq, eq_comm]⟩

/-- The vertices in the order of discovery. -/
def Found.toList (f : Found α) : List α :=
  f.vertices.reverse

/-- Adds a vertex and what is found from it to the vertices found so far, on paths of at most
`length` new vertices. -/
def visit (next : α → List α) : (length : Nat) → (found : Found α) → α → Found α
  | 0, found, _ => found
  | length + 1, found, v =>
    if v ∈ found.set then found else (next v).foldl (visit next length) (found.push v)

/-- What is found from `start` when paths have at most `bound` further vertices. -/
def explore (next : α → List α) (bound : Nat) (start : α) : Found α :=
  visit next (bound + 1) Found.empty start

/-- The vertices that can be reached from `start`, depth first, `start` itself being the first. -/
def depthFirst (next : α → List α) (bound : Nat) (start : α) : List α :=
  (explore next bound start).toList

/-! ## Breadth first -/

/-- Adds the vertices of a layer that are new, and then those of at most `count` further layers. -/
def layers (next : α → List α) (excluded : List α) :
    (count : Nat) → (found layer : List α) → List α
  | 0, found, _ => found
  | count + 1, found, layer =>
    let fresh := (layer.filter fun v => v ∉ excluded ∧ v ∉ found).eraseDups
    if fresh.isEmpty then found
    else layers next excluded count (found ++ fresh) (fresh.flatMap next)

/-- The vertices that can be reached from `start` without passing an excluded one, breadth first. -/
def breadthFirst (next : α → List α) (bound : Nat) (excluded start : List α) : List α :=
  layers next excluded (bound + 1) [] start

end ClassAtlas.Search
