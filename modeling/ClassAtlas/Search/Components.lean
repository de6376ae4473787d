import Std.Data.HashMap

/-!
# The components of a graph

The components of a graph are the largest sets of vertices that all reach each other.  One pass
depth first finds them.  It numbers the vertices as it comes to them and puts them on a stack, where
they wait until their component is known.  The low link of a vertex is the least number that it is
known to get back to; a vertex that does not get back behind its own number is the first of its
component, and the vertices above it on the stack are the others.

* `LowLinks` — the state of the pass.
* `LowLinks.enter`, `LowLinks.lower`, `LowLinks.leave` — its steps.
* `LowLinks.connect` — the pass from one vertex.
* `Search.components` — the components of a graph on a list of vertices.
-/

namespace ClassAtlas.Search

variable {α : Type} [DecidableEq α] [Hashable α]

/-- The state of the pass. -/
structure LowLinks (α : Type) [DecidableEq α] [Hashable α] where
  /-- The number of the next vertex. -/
  counter : Nat := 0
  /-- The vertices whose component is not known yet, the last one first. -/
  stack : List α := []
  onStack : Std.HashMap α Bool := ∅
  index : Std.HashMap α Nat := ∅
  lowlink : Std.HashMap α Nat := ∅
  /-- The components that are known, the last one first. -/
  result : List (List α) := []

namespace LowLinks

/-- The number of a vertex. -/
def number (s : LowLinks α) (v : α) : Nat :=
  s.index.getD v 0

/-- The low link of a vertex. -/
def low (s : LowLinks α) (v : α) : Nat :=
  s.lowlink.getD v 0

/-- Whether a vertex is marked as being on the stack. -/
def waits (s : LowLinks α) (v : α) : Bool :=
  s.onStack.getD v false

/-- Comes to a new vertex. -/
def enter (s : LowLinks α) (v : α) : LowLinks α :=
  { s with
    counter := s.counter + 1
    stack := v :: s.stack
    onStack := s.onStack.insert v true
    index := s.index.insert v s.counter
    lowlink := s.lowlink.insert v s.counter }

/-- Notes that a vertex gets back to a number. -/
def lower (s : LowLinks α) (v : α) (n : Nat) : LowLinks α :=
  if n < s.low v then { s with lowlink := s.lowlink.insert v n } else s

/-- Follows the edge from `v` to `w`, given how to visit a new vertex. -/
def follow (visit : LowLinks α → α → LowLinks α) (v : α) (s : LowLinks α) (w : α) : LowLinks α :=
  if w ∉ s.index then
    let t := visit s w
    t.lower v (t.low w)
  else if s.waits w then s.lower v (s.number w)
  else s

/-- Takes the vertices down to `v` off the stack, which become a component together with those that
were taken off before. -/
def unwind (v : α) (s : LowLinks α) (component : List α) : (stack : List α) → LowLinks α
  | [] => { s with stack := [], result := component :: s.result }
  | w :: rest =>
    let t := { s with onStack := s.onStack.insert w false }
    if w = v then { t with stack := rest, result := (component ++ [w]) :: t.result }
    else t.unwind v (component ++ [w]) rest

/-- Is done with a vertex.  If it is the first of its component, the component is known. -/
def leave (s : LowLinks α) (v : α) : LowLinks α :=
  if s.low v = s.number v then s.unwind v [] s.stack else s

/-- The pass from a new vertex, on paths of at most `length` new vertices. -/
def connect (next : α → List α) : (length : Nat) → LowLinks α → α → LowLinks α
  | 0, s, _ => s
  | length + 1, s, v => ((next v).foldl (follow (connect next length) v) (s.enter v)).leave v

/-- The pass from a vertex that may have been met. -/
def connectNew (next : α → List α) (length : Nat) (s : LowLinks α) (v : α) : LowLinks α :=
  if v ∉ s.index then connect next length s v else s

end LowLinks

/-- The successors of the vertices of a list, worked out once. -/
def table (vertices : List α) (next : α → List α) : Std.HashMap α (List α) :=
  Std.HashMap.ofList (vertices.map fun v => (v, next v))

/-- The largest sets of vertices that all reach each other, for a graph on a list of vertices. -/
def components (vertices : List α) (next : α → List α) : List (List α) :=
  let after := table vertices next
  let s := vertices.foldl (LowLinks.connectNew (fun v => after.getD v []) vertices.length) {}
  s.result.reverse

end ClassAtlas.Search
