/-!
# Sets of characters given by ranges

The character classes of this library (letters, word characters, blanks, printable characters) are
properties of code points, written down as tables of closed ranges.  This file says what such a
table means.

* `Ranges` — a table, in ascending order.
* `Ranges.has` — membership of a character.
* `Ranges.ofRanges` — the table of any ranges.
-/

namespace ClassAtlas.Text

/-- A set of characters: the closed ranges of code points it consists of, in ascending order. -/
abbrev Ranges := List (Nat × Nat)

/-- Whether a character lies in one of the ranges.  The first range that does not end before the
character decides, since the others lie behind it. -/
def Ranges.has : Ranges → Char → Bool
  | [], _ => false
  | (first, last) :: ranges, c =>
    if c.toNat ≤ last then first ≤ c.toNat else Ranges.has ranges c

/-- Adds a range to ranges in descending order that start no later. -/
def joinRange (ranges : Ranges) (range : Nat × Nat) : Ranges :=
  match ranges with
  | (first, last) :: rest =>
    if range.1 ≤ last + 1 then (first, max last range.2) :: rest else range :: ranges
  | [] => [range]

/-- The table of any ranges: in ascending order, those that touch each other joined. -/
def Ranges.ofRanges (ranges : List (Nat × Nat)) : Ranges :=
  ((ranges.mergeSort fun r s => r.1 ≤ s.1).foldl joinRange []).reverse

end ClassAtlas.Text
