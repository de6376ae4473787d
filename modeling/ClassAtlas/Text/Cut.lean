/-!
# Cutting texts

Class names are taken apart at their separators.  Texts are lists of characters here, so that every
cut is a recursion on the text.

* `afterLast`, `beforeLast` — the two sides of the last separator.
* `beforeFirst` — the part before the first separator.
* `splitOnPair` — the pieces between the occurrences of a doubled separator.
-/

namespace ClassAtlas.Text

/-- The part after the last `sep`, or the whole text if there is none. -/
def afterLast (sep : Char) (cs : List Char) : List Char :=
  (cs.reverse.takeWhile (· ≠ sep)).reverse

/-- The part before the last `sep`, if there is one. -/
def beforeLast (sep : Char) (cs : List Char) : Option (List Char) :=
  match cs.reverse.dropWhile (· ≠ sep) with
  | [] => none
  | _ :: rest => some rest.reverse

/-- The part before the first `sep`, or the whole text if there is none. -/
def beforeFirst (sep : Char) (cs : List Char) : List Char :=
  cs.takeWhile (· ≠ sep)

/-- The text with every `old` replaced by `new`. -/
def replaceChar (old new : Char) (cs : List Char) : List Char :=
  cs.map fun c => if c = old then new else c

/-- Adds a character to the front of the first piece. -/
def pushFront (c : Char) : List (List Char) → List (List Char)
  | [] => [[c]]
  | piece :: pieces => (c :: piece) :: pieces

/-- The pieces of a text between the occurrences of `sep sep`, found from left to right. -/
def splitOnPair (sep : Char) : List Char → List (List Char)
  | [] => [[]]
  | [c] => [[c]]
  | c :: d :: rest =>
    if c = sep ∧ d = sep then [] :: splitOnPair sep rest
    else pushFront c (splitOnPair sep (d :: rest))

/-- Whether `part` occurs somewhere in the text. -/
def occurs (part : List Char) : List Char → Bool
  | [] => part.isEmpty
  | c :: rest => part.isPrefixOf (c :: rest) || occurs part rest

end ClassAtlas.Text
