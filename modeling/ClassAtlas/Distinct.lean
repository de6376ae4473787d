import Std.Data.HashSet

/-!
# Distinct items

Lists from which later items are dropped that agree with an earlier one.
-/

namespace ClassAtlas

variable {α β : Type} [DecidableEq β] [Hashable β]

/-- The items of a list whose key neither is in `seen` nor is the key of an earlier item. -/
def distinctFrom (key : α → β) (seen : Std.HashSet β) : List α → List α
  | [] => []
  | x :: rest =>
    if key x ∈ seen then distinctFrom key seen rest
    else x :: distinctFrom key (seen.insert (key x)) rest

/-- The items of a list whose key no earlier item has, in order. -/
def distinctBy (key : α → β) (items : List α) : List α :=
  distinctFrom key ∅ items

end ClassAtlas
