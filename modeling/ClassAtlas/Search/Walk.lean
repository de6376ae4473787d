import ClassAtlas.Search

/-!
# Walks along edges

A walk collects the edges of all vertices that can be reached.  A vertex is marked when the walk
comes across it for the first time, and then waits on a stack to be looked at; so each vertex is
looked at once at most, and walks end on cyclic graphs too.

* `Walk` — the state of a walk.
* `Walk.meet`, `Walk.run` — meeting an edge, and going on until no vertex waits.
* `Search.edgesFrom` — the edges that a walk collects.
-/

namespace ClassAtlas.Search

variable {α ε : Type} [DecidableEq α] [Hashable α]

/-- The state of a walk. -/
structure Walk (α ε : Type) [DecidableEq α] [Hashable α] where
  /-- The edges met so far, the last one first. -/
  result : List ε
  visited : Found α
  /-- The vertices that are still to be looked at, the last one first. -/
  stack : List α

namespace Walk

/-- Nothing but the start is known. -/
def start (v : α) : Walk α ε :=
  ⟨[], Found.empty.push v, [v]⟩

/-- Meets an edge, and marks the vertex that it leads to. -/
def meet (lead : ε → α) (w : Walk α ε) (e : ε) : Walk α ε :=
  if lead e ∈ w.visited.set then { w with result := e :: w.result }
  else ⟨e :: w.result, w.visited.push (lead e), lead e :: w.stack⟩

/-- Looks at the vertices that wait, `steps` of them at most. -/
def run (edges : α → List ε) (lead : ε → α) : (steps : Nat) → Walk α ε → Walk α ε
  | 0, w => w
  | steps + 1, w =>
    match w.stack with
    | [] => w
    | v :: rest => run edges lead steps ((edges v).foldl (meet lead) { w with stack := rest })

end Walk

/-- The edges on the way from `start`, in the order in which they are met, if no more than `bound`
further vertices are looked at. -/
def edgesFrom (edges : α → List ε) (lead : ε → α) (bound : Nat) (start : α) : List ε :=
  (Walk.run edges lead (bound + 1) (Walk.start start)).result.reverse

end ClassAtlas.Search
