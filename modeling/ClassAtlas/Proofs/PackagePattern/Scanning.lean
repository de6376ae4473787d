import ClassAtlas.PackagePattern.Basic
import Mathlib.Data.List.Basic
import Mathlib.Tactic.Common

/-!
# Pieces in one scan

The pieces of a pattern are found by cutting it at each `..` and taking the segments between one by
one.  The same pieces are found by going through the pattern once, from left to right.  What a
character stands for then depends on the characters before it only through one bit, whether a `[`
waits for its `]`.

* `scan` — the pieces of a pattern behind its start, found in one go.
* `scanned` — what a character can be.
* `gap_induction` — induction on a text as the scan goes through it.
* `pieces_eq_scan`, `pieces_gap` — **cutting and scanning find the same pieces**.
* `Text.occurs_iff` — what the check for three dots says.
-/

namespace ClassAtlas

/-! ## Cutting at pairs -/

namespace Text

variable {sep : Char} {part cs : List Char}

lemma splitOnPair_ne_nil (sep : Char) (cs : List Char) : splitOnPair sep cs ≠ [] := by
  fun_induction splitOnPair sep cs with
  | case4 c d rest _ ih =>
      cases hrest : splitOnPair sep (d :: rest) with
      | nil => exact absurd hrest ih
      | cons piece pieces => simp [pushFront]
  | _ => simp

lemma exists_splitOnPair (sep : Char) (cs : List Char) :
    ∃ piece pieces, splitOnPair sep cs = piece :: pieces :=
  List.exists_cons_of_ne_nil (splitOnPair_ne_nil sep cs)

/-- Only the empty text is cut into one empty piece. -/
lemma splitOnPair_eq_singleton_nil (sep : Char) (cs : List Char) :
    splitOnPair sep cs = [[]] ↔ cs = [] := by
  fun_cases splitOnPair sep cs with
  | case1 => simp
  | case2 c => simp
  | case3 c d rest => simpa using splitOnPair_ne_nil sep rest
  | case4 c d rest =>
      obtain ⟨piece, pieces, h⟩ := exists_splitOnPair sep (d :: rest)
      simp [h, pushFront]

/-- The first of several pieces is empty only if the text starts with a pair. -/
lemma pair_prefix_of_splitOnPair {piece : List Char} {pieces : List (List Char)}
    (h : splitOnPair sep cs = [] :: piece :: pieces) : [sep, sep] <+: cs := by
  fun_cases splitOnPair sep cs with
  | case1 => simp [splitOnPair] at h
  | case2 c => simp [splitOnPair] at h
  | case3 c d rest hpair =>
      obtain ⟨rfl, rfl⟩ := hpair
      exact List.prefix_append [_, _] rest
  | case4 c d rest hne =>
      obtain ⟨first, others, hcut⟩ := exists_splitOnPair sep (d :: rest)
      simp [splitOnPair, hne, hcut, pushFront] at h

lemma occurs_iff : occurs part cs = true ↔ part <:+: cs := by
  induction cs with
  | nil => simp [occurs]
  | cons c cs ih =>
      rw [occurs, Bool.or_eq_true, List.isPrefixOf_iff_prefix, ih, List.infix_cons_iff]

end Text

namespace PackagePattern

open Text

/-! ## The scan -/

/-- The piece of a character that is not part of a `..`. -/
def charPiece (inBranches : Bool) (c : Char) : Piece :=
  if c = '*' then .atom .star
  else if c = '(' then .openGroup
  else if c = ')' then .close
  else if c = '[' then .openBranches
  else if c = ']' ∧ inBranches then .close
  else if c = '|' ∧ inBranches then .bar
  else .atom (.char c)

/-- Whether a `[` waits for its `]` behind a character. -/
def inBranchesAfter (inBranches : Bool) (c : Char) : Bool :=
  if c = '[' then true else if c = ']' then false else inBranches

lemma segmentPieces_cons (inBranches : Bool) (c : Char) (rest : List Char) :
    segmentPieces inBranches (c :: rest) =
      charPiece inBranches c :: segmentPieces (inBranchesAfter inBranches c) rest := by
  rw [segmentPieces, charPiece, inBranchesAfter]
  by_cases hclose : c = ']'
  · subst hclose
    cases inBranches <;> simp
  · split_ifs <;> simp_all

/-- The atom of a character that stands for text. -/
def charAtom (c : Char) : Atom :=
  if c = '*' then .star else .char c

lemma charPiece_of_free {b : Bool} {c : Char} (hopen : c ≠ '(') (hclose : c ≠ ')')
    (hbranches : c ≠ '[') (hb : b = true → c ≠ ']' ∧ c ≠ '|') :
    charPiece b c = .atom (charAtom c) := by
  simp only [charPiece, charAtom, hopen, hclose, hbranches]
  split_ifs <;> simp_all

lemma inBranchesAfter_of_free {b : Bool} {c : Char} (hbranches : c ≠ '[')
    (hb : b = true → c ≠ ']') : inBranchesAfter b c = b := by
  rw [inBranchesAfter, if_neg hbranches]
  split_ifs with hc
  · cases b
    · rfl
    · exact absurd hc (hb rfl)
  · rfl

/-- What a character can be, between brackets (`true`) and outside: its piece, and where the text
behind it stands. -/
inductive Scanned : Bool → Char → Piece → Bool → Prop
  | openGroup {b : Bool} : Scanned b '(' .openGroup b
  | closeGroup {b : Bool} : Scanned b ')' .close b
  | openBranches {b : Bool} : Scanned b '[' .openBranches true
  | closeBranches : Scanned true ']' .close false
  | bar : Scanned true '|' .bar true
  | text {b : Bool} {c : Char} (hopen : c ≠ '(') (hclose : c ≠ ')') (hbranches : c ≠ '[')
      (hb : b = true → c ≠ ']' ∧ c ≠ '|') : Scanned b c (.atom (charAtom c)) b

lemma scanned (b : Bool) (c : Char) : Scanned b c (charPiece b c) (inBranchesAfter b c) := by
  by_cases hopen : c = '('
  · subst hopen
    exact .openGroup
  by_cases hclose : c = ')'
  · subst hclose
    exact .closeGroup
  by_cases hbranches : c = '['
  · subst hbranches
    exact .openBranches
  by_cases hb : b = true ∧ (c = ']' ∨ c = '|')
  · obtain ⟨rfl, rfl | rfl⟩ := hb
    · exact .closeBranches
    · exact .bar
  · simp only [not_and, not_or] at hb
    rw [charPiece_of_free hopen hclose hbranches hb,
      inBranchesAfter_of_free hbranches fun h => (hb h).1]
    exact .text hopen hclose hbranches hb

/-- The pieces of a text that stands behind the start of a pattern, found from left to right.  A
`..` at its end is the gap `atEnd`. -/
def scan (atEnd : Atom) : Bool → List Char → List Piece
  | _, [] => []
  | inBranches, [c] => [charPiece inBranches c]
  | inBranches, c :: d :: rest =>
    if c = '.' ∧ d = '.' then
      .atom (if rest.isEmpty then atEnd else .innerGap) :: scan atEnd false rest
    else charPiece inBranches c :: scan atEnd (inBranchesAfter inBranches c) (d :: rest)

variable {atEnd : Atom} {b : Bool} {c : Char} {rest pattern : List Char}

@[simp]
lemma scan_nil : scan atEnd b [] = [] := by
  rw [scan]

lemma scan_gap :
    scan atEnd b ('.' :: '.' :: rest) =
      .atom (if rest.isEmpty then atEnd else .innerGap) :: scan atEnd false rest := by
  rw [scan, if_pos ⟨rfl, rfl⟩]

lemma scan_cons (h : ¬ (c = '.' ∧ rest.head? = some '.')) :
    scan atEnd b (c :: rest) = charPiece b c :: scan atEnd (inBranchesAfter b c) rest := by
  cases rest with
  | nil => simp [scan]
  | cons d rest => rw [scan, if_neg (by simpa using h)]

/-- Induction on a text that takes each `..` in one step, as the scan does. -/
@[elab_as_elim]
lemma gap_induction {motive : List Char → Prop} (nil : motive [])
    (gap : ∀ rest, motive rest → motive ('.' :: '.' :: rest))
    (cons : ∀ c rest, ¬ (c = '.' ∧ rest.head? = some '.') → motive rest → motive (c :: rest))
    (cs : List Char) : motive cs := by
  fun_induction scan .trailingGap true cs with
  | case1 => exact nil
  | case2 b c => exact cons c [] (by simp) nil
  | case3 b c d rest hdots ih =>
      obtain ⟨rfl, rfl⟩ := hdots
      exact gap rest ih
  | case4 b c d rest hdots ih => exact cons c (d :: rest) (by simpa using hdots) ih

/-- Behind its start, a pattern is scanned segment by segment. -/
lemma segmentPieces_append_gapPieces (b : Bool) (cs : List Char) :
    ∀ segment segments, splitOnPair '.' cs = segment :: segments →
      segmentPieces b segment ++ gapPieces false segments = scan .trailingGap b cs := by
  fun_induction scan .trailingGap b cs with
  | case1 b =>
      rintro segment segments ⟨⟩
      rfl
  | case2 b c =>
      rintro segment segments ⟨⟩
      rw [segmentPieces_cons]
      rfl
  | case3 b c d rest hdots ih =>
      intro segment segments h
      rw [splitOnPair, if_pos hdots, List.cons.injEq] at h
      obtain ⟨rfl, rfl⟩ := h
      obtain ⟨segment, segments, hrest⟩ := exists_splitOnPair '.' rest
      have hend : (segments.isEmpty && segment.isEmpty) = rest.isEmpty := by
        have hnil := splitOnPair_eq_singleton_nil '.' rest
        rw [hrest, List.cons.injEq, and_comm] at hnil
        rw [Bool.eq_iff_iff, Bool.and_eq_true]
        simpa only [List.isEmpty_iff] using hnil
      rw [hrest, gapPieces, hend, ← ih segment segments hrest]
      rfl
  | case4 b c d rest hdots ih =>
      intro segment segments h
      obtain ⟨segment', segments', hrest⟩ := exists_splitOnPair '.' (d :: rest)
      rw [splitOnPair, if_neg hdots, hrest, pushFront, List.cons.injEq] at h
      obtain ⟨rfl, rfl⟩ := h
      rw [segmentPieces_cons, List.cons_append, ih _ _ hrest]

/-- **The pieces of a pattern are found in one scan**, if it does not start with a `..`. -/
theorem pieces_eq_scan (h : ¬ ['.', '.'] <+: pattern) :
    pieces pattern = scan .trailingGap false pattern := by
  have hall : pattern ≠ ['.', '.'] := by
    rintro rfl
    exact h List.prefix_rfl
  obtain ⟨segment, segments, hcut⟩ := exists_splitOnPair '.' pattern
  have hgaps : gapPieces segment.isEmpty segments = gapPieces false segments := by
    rcases segment with _ | ⟨c, segment⟩ <;> rcases segments with _ | ⟨segment', segments⟩
    · rfl
    · exact absurd (pair_prefix_of_splitOnPair hcut) h
    · rfl
    · rfl
  rw [pieces, if_neg hall, hcut]
  dsimp only
  rw [hgaps, segmentPieces_append_gapPieces false _ segment segments hcut]

/-- **A `..` at the start is a piece of its own**, and what follows is found in one scan. -/
theorem pieces_gap :
    pieces ('.' :: '.' :: rest) =
      if rest.isEmpty then [.atom .anything]
      else .atom .leadingGap :: scan .trailingGap false rest := by
  rw [pieces]
  split_ifs with hall hempty hempty
  · rfl
  · simp_all
  · simp_all
  · obtain ⟨segment, segments, hrest⟩ := exists_splitOnPair '.' rest
    have hcut : splitOnPair '.' ('.' :: '.' :: rest) = [] :: segment :: segments := by
      rw [← hrest]
      rfl
    rw [hcut, ← segmentPieces_append_gapPieces false _ segment segments hrest]
    rfl

end PackagePattern

end ClassAtlas
