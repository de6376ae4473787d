import ClassAtlas.PackagePattern.Shape
import Std.Data.HashMap

/-!
# The room of an automaton

A pattern is run by two automata over the bytes of a name, one that reads it forward and one that
reads it backward.  Only their size matters here, for there is a limit to it.  A state takes
`stateBytes`; a state with several successors takes some more for each of them.

The states of a set of characters are shared where they can be: a state that is about to be made is
looked up among those made before.  They are remembered in a table of limited length, in which each
has one slot that its content decides, and a state that comes to a slot replaces the one before it.

* `Room` — states, and bytes beside them.
* `Room.addSet` — the states of a set of characters.
* `Room.addWords` — the states of a choice between words.
* `Shape.room` — the bytes of the automaton of a pattern.
-/

namespace ClassAtlas.PackagePattern

open Text (ByteRange)

/-- The way in which an automaton reads a name. -/
inductive Direction where
  | forward
  | backward
deriving DecidableEq, Repr, Inhabited

/-- The bytes of a state. -/
def stateBytes : Nat :=
  32

/-- The bytes of one of several successors. -/
def successorBytes : Nat :=
  4

/-- The bytes of a successor that goes with a range of bytes. -/
def stepBytes : Nat :=
  8

/-- The most bytes of an automaton. -/
def maxRoom : Nat :=
  10485760

/-- The size of an automaton that is being made.  States are numbered as they come. -/
structure Room where
  states : Nat
  /-- The bytes beside those of the states. -/
  extra : Nat
deriving DecidableEq, Repr, Inhabited

namespace Room

/-- The bytes of an automaton. -/
def bytes (r : Room) : Nat :=
  stateBytes * r.states + r.extra

/-- Some more states. -/
def addStates (r : Room) (count : Nat) : Room :=
  { r with states := r.states + count }

/-- Some more successors of states. -/
def addSuccessors (r : Room) (count : Nat) : Room :=
  { r with extra := r.extra + successorBytes * count }

/-- A state with a step for each of `count` byte ranges. -/
def addSteps (r : Room) (count : Nat) : Room :=
  ⟨r.states + 1, r.extra + stepBytes * count⟩

end Room

/-! ## Sets of characters -/

/-- The slot that numbers decide in a table of this length. -/
def slotOf (length : UInt64) (numbers : List UInt64) : UInt64 :=
  numbers.foldl (fun h n => (h ^^^ n) * 1099511628211) 14695981039346656037 % length

/-- A step over a range of bytes to a state. -/
structure Step where
  range : ByteRange
  target : Nat
deriving DecidableEq, Repr, Inhabited

/-- States by their slots. -/
abbrev Memo (κ : Type) :=
  Std.HashMap UInt64 (κ × Nat)

/-- The state with this content, if it is remembered. -/
def Memo.state? {κ : Type} [DecidableEq κ] (memo : Memo κ) (slot : UInt64) (content : κ) :
    Option Nat :=
  (memo[slot]?).bind fun (found, state) => if found = content then some state else none

/-- The states of a set so far, when a name is read backward. -/
structure Behind where
  memo : Memo Step
  states : Nat

/-- The state from which a step leads to `target`. -/
def Behind.step (b : Behind) (target : Nat) (range : ByteRange) : Behind × Nat :=
  let slot := slotOf 1000 [.ofNat target, range.first.toUInt64, range.last.toUInt64]
  let content := Step.mk range target
  match b.memo.state? slot content with
  | some state => (b, state)
  | none => (⟨b.memo.insert slot (content, b.states), b.states + 1⟩, b.states)

/-- The states of a sequence of byte ranges before the state `target`. -/
def Behind.sequence (target : Nat) (b : Behind) (ranges : List ByteRange) : Behind :=
  (ranges.foldl (fun (b, target) range => b.step target range) (b, target)).1

/-- The states of sequences that are read backward: a state that leads to each of them, the state
they all end in, and theirs. -/
def Room.addBackward (r : Room) (sequences : List (List ByteRange)) : Room :=
  let b := sequences.foldl (Behind.sequence (r.states + 1)) ⟨∅, r.states + 2⟩
  ⟨b.states, (r.addSuccessors sequences.length).extra⟩

/-- A state on the path of the last sequence: the steps that are certain, and the range of the step
along the path. -/
structure Node where
  steps : List Step
  range : Option ByteRange
deriving DecidableEq, Repr, Inhabited

/-- The steps of a node when its step along the path leads to `target`. -/
def Node.close (n : Node) (target : Nat) : List Step :=
  n.steps ++ n.range.toList.map fun range => ⟨range, target⟩

/-- The states of a set so far, when a name is read forward. -/
structure Ahead where
  memo : Memo (List Step)
  room : Room

/-- The state with these steps. -/
def Ahead.state (a : Ahead) (steps : List Step) : Ahead × Nat :=
  let slot := slotOf 10000 <| steps.flatMap fun s =>
    [s.range.first.toUInt64, s.range.last.toUInt64, .ofNat s.target]
  match a.memo.state? slot steps with
  | some state => (a, state)
  | none =>
    (⟨a.memo.insert slot (steps, a.room.states), a.room.addSteps steps.length⟩, a.room.states)

/-- Makes the states of a path that ends in `target`, the last one first. -/
def Ahead.close (target : Nat) (a : Ahead) : List Node → Ahead × Nat
  | [] => (a, target)
  | n :: deeper =>
    let (a, next) := Ahead.close target a deeper
    a.state (n.close next)

/-- The path of the next sequence.  It leaves the path before it at the first range that differs,
and the states behind are made. -/
def Ahead.sequence (target : Nat) : Ahead × List Node → List ByteRange → Ahead × List Node
  | (a, []), ranges => (a, ranges.map fun range => ⟨[], some range⟩)
  | (a, path), [] => (a, path)
  | (a, n :: deeper), range :: ranges =>
    if n.range = some range then
      let (a, deeper) := Ahead.sequence target (a, deeper) ranges
      (a, n :: deeper)
    else
      let (a, next) := a.close target deeper
      (a, ⟨n.close next, some range⟩ :: ranges.map fun range => ⟨[], some range⟩)

/-- The states of sequences that are read forward: the state they all end in, and theirs. -/
def Room.addForward (r : Room) (sequences : List (List ByteRange)) : Room :=
  let target := r.states
  let (a, path) := sequences.foldl (Ahead.sequence target) (⟨∅, r.addStates 1⟩, [⟨[], none⟩])
  (a.close target path).1.room

/-- The states of sequences of byte ranges.  An automaton that is too large already does not
grow. -/
def Room.addSequences (d : Direction) (r : Room) (sequences : List (List ByteRange)) : Room :=
  if r.bytes > maxRoom then r
  else
    match d with
    | .forward => r.addForward sequences
    | .backward => r.addBackward sequences

/-- The states of a set of characters.  One byte each needs only a state and the one behind it. -/
def Room.addSet (d : Direction) (r : Room) (ranges : Text.Ranges) : Room :=
  if ranges.all fun range => range.2 < 0x80 then (r.addStates 1).addSteps ranges.length
  else r.addSequences d ranges.sequences

/-- The sequences of the word characters and `$`. -/
def wordSequences : List (List ByteRange) :=
  Text.Ranges.sequences ((0x24, 0x24) :: Text.wordChars)

/-- The sequences of all characters but the line feed. -/
def anySequences : List (List ByteRange) :=
  Text.Ranges.sequences [(0x0, 0x9), (0xB, 0x10FFFF)]

/-- The sequences of a set of characters. -/
def CharSet.sequences : CharSet → List (List ByteRange)
  | .exactly c => Text.byteSequences (c.toNat, c.toNat)
  | .word => wordSequences
  | .any => anySequences

/-! ## Choices between words -/

/-- The parts of a list of words between those that are empty. -/
def partsBetween (words : List (List UInt8)) : List (List (List UInt8)) :=
  match words with
  | [] => [[]]
  | word :: rest =>
    match partsBetween rest with
    | [] => [[word]]
    | part :: parts => if word.isEmpty then [] :: part :: parts else (word :: part) :: parts

/-- What follows a byte in those of the words that begin with it. -/
def wordsAfter (byte : UInt8) (words : List (List UInt8)) : List (List UInt8) :=
  words.filterMap fun
    | [] => none
    | first :: rest => if first = byte then some rest else none

/-- The states at which the words of a list part, none of which is longer than `length`.  A word
that ends keeps those before it and those after it from sharing states, so that the order of
preference is kept; only at the very front it does so once. -/
def addBranching : (length : Nat) → Room → List (List UInt8) → Room
  | 0, r, _ => r
  | length + 1, r, words =>
    let rest := words.dropWhile List.isEmpty
    let ends := (rest.filter List.isEmpty).length + (if rest.length < words.length then 1 else 0)
    let parts := (partsBetween rest).filter fun part => !part.isEmpty
    let r := parts.foldl (fun r part =>
      let bytes := (part.filterMap List.head?).eraseDups
      let r := bytes.foldl (fun r byte =>
        let after := wordsAfter byte part
        if after.all List.isEmpty then r else addBranching length r after) r
      if bytes.length = 1 then r.addStates 1 else r.addSteps bytes.length) r
    (r.addStates 1).addSuccessors (parts.length + ends)

/-- The bytes of a text in the order in which they are read. -/
def wordBytes (d : Direction) (chars : List Char) : List UInt8 :=
  let bytes := chars.flatMap String.utf8EncodeChar
  match d with
  | .forward => bytes
  | .backward => bytes.reverse

/-- The states of a choice between words: the one they all end in, and those at which they part. -/
def Room.addWords (d : Direction) (r : Room) (words : List (List Char)) : Room :=
  let words := words.map (wordBytes d)
  addBranching ((words.map List.length).foldl max 0 + 1) (r.addStates 1) words

/-! ## Patterns -/

/-- The text of a literal. -/
def Shape.literal? : Shape → Option (List Char)
  | .literal chars => some chars
  | _ => none

mutual

/-- The automaton with the states of a shape. -/
def Shape.grow (d : Direction) : Shape → Room → Room
  | .empty, r => r.addStates 1
  | .edge _, r => r.addStates 1
  | .literal chars, r => r.addStates (chars.map Char.utf8Size).sum
  | .set ranges, r => r.addSet d ranges
  | .run chars, r => ((r.addStates 1).addSuccessors 2).addSequences d chars.sequences
  | .optional body, r => (body.grow d ((r.addStates 1).addSuccessors 2)).addStates 1
  | .group _ body, r =>
    match d with
    | .forward => (body.grow d (r.addStates 1)).addStates 1
    | .backward => body.grow d r
  | .sequence items, r => growSequence d items r
  | .choice branches, r =>
    match branches.mapM Shape.literal? with
    | some words => r.addWords d words
    | none => growChoice d 0 branches r

/-- The automaton with the states of a sequence. -/
def growSequence (d : Direction) : List Shape → Room → Room
  | [], r => r
  | s :: rest, r =>
    match d with
    | .forward => growSequence d rest (s.grow d r)
    | .backward => s.grow d (growSequence d rest r)

/-- The automaton with the states of the branches of a choice.  The state that leads to the branches
and the one behind them come after the second branch. -/
def growChoice (d : Direction) (position : Nat) : List Shape → Room → Room
  | [], r => r
  | s :: rest, r =>
    let r := (s.grow d r).addSuccessors 1
    growChoice d (position + 1) rest (if position = 1 then r.addStates 2 else r)

end

/-- The automaton before the states of a pattern: a state to start in, and, if the pattern has
branches that are not tied to both ends of the name, the states that pass over what comes before a
match. -/
def Shape.beginning : Shape → Room
  | .choice _ => ((Room.mk 2 0).addSteps 1).addSuccessors 2
  | _ => ⟨1, 0⟩

/-- The bytes of the automaton of a pattern.  It ends in a state of its own; and read forward, the
whole of it is a group. -/
def Shape.room (s : Shape) (d : Direction) : Nat :=
  match d with
  | .forward => ((s.grow d (s.beginning.addStates 1)).addStates 2).bytes
  | .backward => ((s.grow d s.beginning).addStates 1).bytes

end ClassAtlas.PackagePattern
