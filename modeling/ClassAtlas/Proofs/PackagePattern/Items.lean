import ClassAtlas.Proofs.PackagePattern.Assembly

/-!
# Patterns as sequences of segments

A package name is a sequence of segments with dots between them, and a pattern without groups and
branches is a sequence of items: a `..` stands for any number of segments, and what stands between
dots for one.  The expression of a pattern has no segments.  It treats a `..` in front, at the end
and between others in three ways, so that a dot that goes with skipped segments is never asked for
when none are skipped.

* `items`, `Matches` — the items of a pattern, and the segments they match.
* `dotted`, `splitOn_eq_cons_iff` — how a name is put together from its segments.
* `exists_yields_scan` — what a pattern derives behind its start, item by item.
* `selects_iff_matches` — **a name matches a pattern exactly if its segments match the items**.
-/

namespace ClassAtlas.PackagePattern

open Text

/-! ## Items and segments -/

/-- A part of a pattern. -/
inductive Item where
  /-- A `..`: any number of segments. -/
  | gap
  /-- What stands between dots: one segment. -/
  | segment (chars : List Char)
deriving DecidableEq, Repr

/-- Adds a character in front of items.  It joins a segment; before a gap, it is one of its own. -/
def addChar (c : Char) : List Item → List Item
  | .segment chars :: rest => .segment (c :: chars) :: rest
  | rest => .segment [c] :: rest

/-- The items of a pattern: each `..` is a gap, and any other dot separates two segments. -/
def items : List Char → List Item
  | [] => [.segment []]
  | ['.', '.'] => [.gap]
  | '.' :: '.' :: rest => .gap :: items rest
  | '.' :: rest => .segment [] :: items rest
  | c :: rest => addChar c (items rest)

/-- A segment of a name matches a segment of a pattern, in which `*` stands for any run of word
characters and `$`, and any other character for itself. -/
inductive SegmentMatches : List Char → List Char → Prop
  | nil : SegmentMatches [] []
  | star {chars run segment : List Char} (hrun : ∀ c ∈ run, isWordChar c = true ∨ c = '$')
      (h : SegmentMatches chars segment) : SegmentMatches ('*' :: chars) (run ++ segment)
  | char {c : Char} {chars segment : List Char} (hc : c ≠ '*') (h : SegmentMatches chars segment) :
      SegmentMatches (c :: chars) (c :: segment)

/-- Segments match items: any number of them a gap, and one a segment. -/
inductive Matches : List Item → List (List Char) → Prop
  | nil : Matches [] []
  | gap {rest : List Item} {segments : List (List Char)} (skipped : List (List Char))
      (h : Matches rest segments) : Matches (.gap :: rest) (skipped ++ segments)
  | segment {chars segment : List Char} {rest : List Item} {segments : List (List Char)}
      (hsegment : SegmentMatches chars segment) (h : Matches rest segments) :
      Matches (.segment chars :: rest) (segment :: segments)

lemma matches_nil {segments : List (List Char)} : Matches [] segments ↔ segments = [] := by
  constructor
  · rintro ⟨⟩
    rfl
  · rintro rfl
    exact .nil

lemma matches_gap {rest : List Item} {segments : List (List Char)} :
    Matches (.gap :: rest) segments ↔
      ∃ skipped others, segments = skipped ++ others ∧ Matches rest others := by
  constructor
  · rintro ⟨⟩
    exact ⟨_, _, rfl, ‹_›⟩
  · rintro ⟨skipped, others, rfl, h⟩
    exact .gap skipped h

lemma matches_segment {chars : List Char} {rest : List Item} {segments : List (List Char)} :
    Matches (.segment chars :: rest) segments ↔
      ∃ segment others, segments = segment :: others ∧ SegmentMatches chars segment ∧
        Matches rest others := by
  constructor
  · rintro ⟨⟩
    exact ⟨_, _, rfl, ‹_›, ‹_›⟩
  · rintro ⟨segment, others, rfl, hsegment, h⟩
    exact .segment hsegment h

lemma segmentMatches_cons {c : Char} {chars segment : List Char} :
    SegmentMatches (c :: chars) segment ↔
      ∃ first rest, segment = first ++ rest ∧ SegmentMatches chars rest ∧
        if c = '*' then ∀ d ∈ first, isWordChar d = true ∨ d = '$' else first = [c] := by
  constructor
  · intro h
    cases h with
    | star hrun h => exact ⟨_, _, rfl, h, by simpa using hrun⟩
    | char hc h => exact ⟨[c], _, rfl, h, by simp [hc]⟩
  · rintro ⟨first, rest, rfl, h, hfirst⟩
    split_ifs at hfirst with hc
    · subst hc
      exact .star hfirst h
    · subst hfirst
      exact .char hc h

/-! ## Names and their segments -/

/-- Segments, each behind a dot. -/
def dotted (segments : List (List Char)) : List Char :=
  segments.flatMap ('.' :: ·)

@[simp]
lemma dotted_nil : dotted [] = [] := rfl

@[simp]
lemma dotted_cons (segment : List Char) (segments : List (List Char)) :
    dotted (segment :: segments) = '.' :: (segment ++ dotted segments) := by
  simp [dotted]

@[simp]
lemma dotted_append (segments segments' : List (List Char)) :
    dotted (segments ++ segments') = dotted segments ++ dotted segments' := by
  simp [dotted]

lemma intercalate_eq_append_dotted (segment : List Char) (segments : List (List Char)) :
    ['.'].intercalate (segment :: segments) = segment ++ dotted segments := by
  induction segments generalizing segment with
  | nil => simp
  | cons segment' segments ih => rw [List.intercalate_cons_cons, ih]; simp

lemma not_mem_of_mem_splitOn {name segment : List Char} (h : segment ∈ name.splitOn '.') :
    '.' ∉ segment := by
  induction name generalizing segment with
  | nil => simp_all
  | cons c name ih =>
      rw [List.splitOn, List.splitOnP_cons_eq_if_modifyHead, ← List.splitOn] at h
      split_ifs at h with hc
      · rcases List.mem_cons.mp h with rfl | h
        · simp
        · exact ih h
      · cases hrest : name.splitOn '.' with
        | nil => simp [hrest] at h
        | cons first others =>
            rw [hrest, List.modifyHead_cons] at h
            rw [hrest] at ih
            rcases List.mem_cons.mp h with rfl | h
            · rw [List.mem_cons, not_or]
              exact ⟨fun hdot => hc (beq_iff_eq.mpr hdot.symm), ih List.mem_cons_self⟩
            · exact ih (List.mem_cons_of_mem _ h)

/-- **A name is its first segment and the others behind dots.** -/
lemma splitOn_eq_cons_iff {name segment : List Char} {segments : List (List Char)} :
    name.splitOn '.' = segment :: segments ↔
      name = segment ++ dotted segments ∧ '.' ∉ segment ∧ ∀ s ∈ segments, '.' ∉ s := by
  rw [← intercalate_eq_append_dotted]
  constructor
  · intro h
    have hfree : ∀ s ∈ segment :: segments, '.' ∉ s := fun s hs => not_mem_of_mem_splitOn (h ▸ hs)
    exact ⟨by rw [← h, List.intercalate_splitOn], List.forall_mem_cons.mp hfree⟩
  · rintro ⟨rfl, hfree⟩
    exact List.splitOn_intercalate '.' (List.forall_mem_cons.mpr hfree) (by simp)

lemma exists_splitOn (name : List Char) :
    ∃ segment segments, name.splitOn '.' = segment :: segments :=
  List.exists_cons_of_ne_nil (List.splitOn_ne_nil '.' name)

/-- The segments of a name, each behind a dot, are a dot and the name. -/
lemma dotted_splitOn (name : List Char) : dotted (name.splitOn '.') = '.' :: name := by
  obtain ⟨segment, segments, h⟩ := exists_splitOn name
  rw [h, dotted_cons, (splitOn_eq_cons_iff.mp h).1]

/-- Items match a text behind the start of a pattern.  The text continues a segment if the first
item is one, and otherwise starts with the dot of its first segment. -/
def MatchesBehind : List Item → List Char → Prop
  | .segment chars :: rest, text =>
    ∃ segment segments, text.splitOn '.' = segment :: segments ∧ SegmentMatches chars segment ∧
      Matches rest segments
  | rest, text =>
    ∃ segments, text = dotted segments ∧ (∀ s ∈ segments, '.' ∉ s) ∧ Matches rest segments

variable {text : List Char} {rest : List Item} {c : Char} {chars : List Char}

lemma matchesBehind_end : MatchesBehind [.segment []] text ↔ text = [] := by
  rw [MatchesBehind]
  constructor
  · rintro ⟨segment, segments, hcut, ⟨⟩, ⟨⟩⟩
    simpa using (splitOn_eq_cons_iff.mp hcut).1
  · rintro rfl
    exact ⟨[], [], by simp, .nil, .nil⟩

/-- What a character that is no dot stands for. -/
def CharMatches (c : Char) (part : List Char) : Prop :=
  if c = '*' then ∀ d ∈ part, isWordChar d = true ∨ d = '$' else part = [c]

lemma CharMatches.dot_not_mem {part : List Char} (h : CharMatches c part) (hc : c ≠ '.') :
    '.' ∉ part := by
  intro hdot
  rw [CharMatches] at h
  split_ifs at h
  · rcases h _ hdot with h | h
    · exact absurd h (by decide)
    · exact absurd h (by decide)
  · subst h
    exact hc (List.mem_singleton.mp hdot).symm

lemma matchesBehind_addChar (hc : c ≠ '.') :
    MatchesBehind (addChar c rest) text ↔
      ∃ first others, text = first ++ others ∧ CharMatches c first ∧ MatchesBehind rest others := by
  fun_cases addChar c rest with
  | case1 chars rest =>
      simp only [MatchesBehind, segmentMatches_cons, splitOn_eq_cons_iff]
      constructor
      · rintro ⟨_, segments, ⟨rfl, hfree, hothers⟩, ⟨first, segment, rfl, hsegment, hfirst⟩, hrest⟩
        exact ⟨first, segment ++ dotted segments, by simp, hfirst, segment, segments,
          ⟨rfl, fun h => hfree (by simp [h]), hothers⟩, hsegment, hrest⟩
      · rintro ⟨first, _, rfl, hfirst, segment, segments, ⟨rfl, hfree, hothers⟩, hsegment, hrest⟩
        refine ⟨first ++ segment, segments, ⟨by simp, ?_, hothers⟩, ⟨first, segment, rfl, hsegment,
          hfirst⟩, hrest⟩
        simpa [hfree] using hfirst.dot_not_mem hc
  | case2 rest hseg =>
      simp only [MatchesBehind, segmentMatches_cons, splitOn_eq_cons_iff]
      constructor
      · rintro ⟨_, segments, ⟨rfl, hfree, hothers⟩, ⟨first, segment, rfl, ⟨⟩, hfirst⟩, hrest⟩
        exact ⟨first, dotted segments, by simp, hfirst, segments, rfl, hothers, hrest⟩
      · rintro ⟨first, _, rfl, hfirst, segments, rfl, hothers, hrest⟩
        exact ⟨first, segments, ⟨rfl, hfirst.dot_not_mem hc, hothers⟩,
          ⟨first, [], by simp, .nil, hfirst⟩, hrest⟩

lemma matchesBehind_dot :
    MatchesBehind (.segment [] :: .segment chars :: rest) text ↔
      ∃ others, text = '.' :: others ∧ MatchesBehind (.segment chars :: rest) others := by
  simp only [MatchesBehind, splitOn_eq_cons_iff, matches_segment]
  constructor
  · rintro ⟨_, _, ⟨rfl, -, hothers⟩, ⟨⟩, segment, segments, rfl, hsegment, hrest⟩
    rw [List.forall_mem_cons] at hothers
    exact ⟨segment ++ dotted segments, by simp, segment, segments, ⟨rfl, hothers⟩, hsegment, hrest⟩
  · rintro ⟨_, rfl, segment, segments, ⟨rfl, hothers⟩, hsegment, hrest⟩
    exact ⟨[], segment :: segments, ⟨by simp, by simp, List.forall_mem_cons.mpr hothers⟩, .nil,
      segment, segments, rfl, hsegment, hrest⟩

/-- A `..` between others: a dot, or a dot before and behind the skipped segments. -/
lemma matchesBehind_gap :
    MatchesBehind (.gap :: .segment chars :: rest) text ↔
      ∃ first others, text = first ++ others ∧
        (first = ['.'] ∨ ∃ skipped, first = '.' :: (skipped ++ ['.'])) ∧
        MatchesBehind (.segment chars :: rest) others := by
  simp only [MatchesBehind, splitOn_eq_cons_iff, matches_gap, matches_segment]
  constructor
  · rintro ⟨_, rfl, hfree, skipped, _, rfl, segment, segments, rfl, hsegment, hrest⟩
    have hothers : '.' ∉ segment ∧ ∀ s ∈ segments, '.' ∉ s :=
      List.forall_mem_cons.mp fun s hs => hfree s (List.mem_append_right _ hs)
    refine ⟨dotted skipped ++ ['.'], segment ++ dotted segments, by simp, ?_, segment, segments,
      ⟨rfl, hothers⟩, hsegment, hrest⟩
    cases skipped with
    | nil => exact Or.inl rfl
    | cons s skipped => exact Or.inr ⟨s ++ dotted skipped, by simp⟩
  · rintro ⟨first, _, rfl, hfirst, segment, segments, ⟨rfl, hothers⟩, hsegment, hrest⟩
    obtain ⟨skipped, hskipped, hfree⟩ :
        ∃ skipped, first = dotted skipped ++ ['.'] ∧ ∀ s ∈ skipped, '.' ∉ s := by
      rcases hfirst with rfl | ⟨skipped, rfl⟩
      · exact ⟨[], rfl, by simp⟩
      · exact ⟨skipped.splitOn '.', by simp [dotted_splitOn], fun s => not_mem_of_mem_splitOn⟩
    subst hskipped
    refine ⟨skipped ++ segment :: segments, by simp, ?_, skipped, _, rfl, segment, segments, rfl,
      hsegment, hrest⟩
    rw [List.forall_mem_append, List.forall_mem_cons]
    exact ⟨hfree, hothers⟩

/-- A `..` at the end: nothing, or a dot before the skipped segments. -/
lemma matchesBehind_lastGap :
    MatchesBehind [.gap] text ↔ text = [] ∨ ∃ skipped, text = '.' :: skipped := by
  simp only [MatchesBehind, matches_gap, matches_nil]
  constructor
  · rintro ⟨segments, rfl, -, -⟩
    cases segments with
    | nil => exact Or.inl rfl
    | cons s segments => exact Or.inr ⟨s ++ dotted segments, by simp⟩
  · rintro (rfl | ⟨skipped, rfl⟩)
    · exact ⟨[], rfl, by simp, [], [], rfl, rfl⟩
    · exact ⟨skipped.splitOn '.', (dotted_splitOn skipped).symm, fun s => not_mem_of_mem_splitOn,
        skipped.splitOn '.', [], by simp, rfl⟩

/-- A `..` in front: nothing, or a dot behind the skipped segments. -/
lemma matches_firstGap :
    Matches (.gap :: .segment chars :: rest) (text.splitOn '.') ↔
      ∃ first others, text = first ++ others ∧
        (first = [] ∨ ∃ skipped, first = skipped ++ ['.']) ∧
        MatchesBehind (.segment chars :: rest) others := by
  simp only [MatchesBehind, matches_gap, matches_segment]
  constructor
  · rintro ⟨skipped, _, hcut, segment, segments, rfl, hsegment, hrest⟩
    cases skipped with
    | nil => exact ⟨[], text, rfl, Or.inl rfl, segment, segments, hcut, hsegment, hrest⟩
    | cons s skipped =>
        obtain ⟨rfl, -, hfree⟩ := splitOn_eq_cons_iff.mp hcut
        refine ⟨s ++ dotted skipped ++ ['.'], segment ++ dotted segments, by simp,
          Or.inr ⟨_, rfl⟩, segment, segments, splitOn_eq_cons_iff.mpr ⟨rfl, ?_⟩, hsegment, hrest⟩
        exact List.forall_mem_cons.mp fun s hs => hfree s (List.mem_append_right _ hs)
  · rintro ⟨_, others, rfl, rfl | ⟨skipped, rfl⟩, segment, segments, hcut, hsegment, hrest⟩
    · exact ⟨[], _, hcut, segment, segments, rfl, hsegment, hrest⟩
    · refine ⟨skipped.splitOn '.', _, ?_, segment, segments, rfl, hsegment, hrest⟩
      rw [List.append_assoc, List.singleton_append, List.splitOn_append_cons_self, hcut]

/-! ## Atoms -/

section Atoms

variable {before part after : List Char}

lemma derives_charAtom :
    (charAtom c).expr.Derives before part after ↔ CharMatches c part := by
  rw [charAtom, CharMatches]
  split_ifs with hc
  · simp [Atom.expr, CharSet.has]
  · simp [Atom.expr, CharSet.has]

lemma has_exactly {d : Char} : (CharSet.exactly d).has c = true ↔ c = d := by
  simp [CharSet.has]

lemma any_has (h : '\n' ∉ part) : ∀ c ∈ part, CharSet.any.has c = true := by
  intro c hc
  simp only [CharSet.has, bne_iff_ne, ne_eq]
  rintro rfl
  exact h hc

lemma derives_anything (h : '\n' ∉ part) : Atom.anything.expr.Derives before part after := by
  simpa [Atom.expr] using any_has h

lemma derives_innerGap (h : '\n' ∉ part) :
    Atom.innerGap.expr.Derives before part after ↔
      part = ['.'] ∨ ∃ skipped, part = '.' :: (skipped ++ ['.']) := by
  simp only [Atom.expr, dot, Expr.derives_alt, Expr.derives_one, Expr.derives_seq,
    Expr.derives_many, has_exactly, exists_eq_left]
  refine or_congr_right ⟨?_, ?_⟩
  · rintro ⟨_, _, rfl, rfl, skipped, _, rfl, -, rfl⟩
    exact ⟨skipped, rfl⟩
  · rintro ⟨skipped, rfl⟩
    exact ⟨['.'], skipped ++ ['.'], rfl, rfl, skipped, ['.'], rfl,
      any_has fun hc => h (by simp [hc]), rfl⟩

lemma derives_leadingGap (h : '\n' ∉ part) :
    Atom.leadingGap.expr.Derives before part after ↔
      part = [] ∨ ∃ skipped, part = skipped ++ ['.'] := by
  simp only [Atom.expr, dot, Expr.derives_alt, Expr.derives_one, Expr.derives_seq,
    Expr.derives_many, Expr.derives_empty, has_exactly, exists_eq_left]
  rw [or_comm]
  refine or_congr_right ⟨?_, ?_⟩
  · rintro ⟨skipped, _, rfl, -, rfl⟩
    exact ⟨skipped, rfl⟩
  · rintro ⟨skipped, rfl⟩
    exact ⟨skipped, ['.'], rfl, any_has fun hc => h (by simp [hc]), rfl⟩

lemma derives_trailingGap (h : '\n' ∉ part) :
    Atom.trailingGap.expr.Derives before part after ↔
      part = [] ∨ ∃ skipped, part = '.' :: skipped := by
  simp only [Atom.expr, dot, Expr.derives_alt, Expr.derives_one, Expr.derives_seq,
    Expr.derives_many, Expr.derives_empty, has_exactly, exists_eq_left]
  rw [or_comm]
  refine or_congr_right ⟨?_, ?_⟩
  · rintro ⟨_, skipped, rfl, rfl, -⟩
    exact ⟨skipped, rfl⟩
  · rintro ⟨skipped, rfl⟩
    exact ⟨['.'], skipped, rfl, rfl, any_has fun hc => h (by simp [hc])⟩

end Atoms

/-! ## The items of a pattern -/

variable {pattern : List Char}

lemma head?_eq_of_prefix_pair (h : ['.', '.'] <+: pattern) : pattern.head? = some '.' := by
  obtain ⟨rest, rfl⟩ := h
  rfl

/-- The first item is a gap only if the pattern starts with `..`. -/
lemma exists_items_eq_segment (h : ¬ ['.', '.'] <+: pattern) :
    ∃ chars rest, items pattern = .segment chars :: rest := by
  fun_cases items pattern with
  | case1 => exact ⟨_, _, rfl⟩
  | case2 => exact absurd List.prefix_rfl h
  | case3 rest => exact absurd (List.prefix_append ['.', '.'] rest) h
  | case4 rest => exact ⟨_, _, rfl⟩
  | case5 c rest =>
      fun_cases addChar c (items rest) with
      | case1 => exact ⟨_, _, rfl⟩
      | case2 => exact ⟨_, _, rfl⟩

/-- The pattern has no groups, no branches and no three dots in a row. -/
structure Simple (pattern : List Char) : Prop where
  free : ∀ c ∈ pattern, c ≠ '(' ∧ c ≠ ')' ∧ c ≠ '['
  dots : ¬ ['.', '.', '.'] <:+: pattern

lemma Simple.tail (h : Simple (c :: pattern)) : Simple pattern :=
  ⟨fun d hd => h.free d (List.mem_cons_of_mem c hd), fun hdots => h.dots (hdots.trans
    (List.suffix_cons c pattern).isInfix)⟩

/-- Behind two dots there is no third. -/
lemma Simple.head?_ne (h : Simple ('.' :: '.' :: pattern)) : pattern.head? ≠ some '.' := by
  intro hhead
  obtain ⟨rest, rfl⟩ := List.head?_eq_some_iff.mp hhead
  exact h.dots (List.prefix_append ['.', '.', '.'] rest).isInfix

/-- What an atom and then further expressions derive, each said without the text around. -/
lemma derivesAll_cons_iff {a : Atom} {es : List Expr} {First Others : List Char → Prop}
    (ha : ∀ before part after, '\n' ∉ part → (a.expr.Derives before part after ↔ First part))
    (hes : ∀ before part after, '\n' ∉ part → (Expr.DerivesAll es before part after ↔ Others part))
    {before part after : List Char} (hpart : '\n' ∉ part) :
    Expr.DerivesAll (a.expr :: es) before part after ↔
      ∃ first others, part = first ++ others ∧ First first ∧ Others others := by
  rw [Expr.DerivesAll]
  refine exists_congr fun first => exists_congr fun others => and_congr_right ?_
  rintro rfl
  rw [ha _ _ _ fun hc => hpart (List.mem_append_left _ hc),
    hes _ _ _ fun hc => hpart (List.mem_append_right _ hc)]

/-- **What a pattern derives behind its start, item by item.** -/
theorem exists_yields_scan (h : Simple pattern) :
    ∃ es, Yields (scan .trailingGap false pattern) es ∧
      ∀ before part after, '\n' ∉ part →
        (Expr.DerivesAll es before part after ↔ MatchesBehind (items pattern) part) := by
  fun_induction items pattern with
  | case1 =>
      refine ⟨[], by simpa using yields_nil, fun before part after _ => ?_⟩
      rw [Expr.DerivesAll, matchesBehind_end]
  | case2 =>
      refine ⟨[Atom.trailingGap.expr], by simpa [scan_gap] using yields_atom .trailingGap,
        fun before part after hpart => ?_⟩
      rw [Expr.derivesAll_singleton, derives_trailingGap hpart, matchesBehind_lastGap]
  | case3 rest hne ih =>
      obtain ⟨es, hyields, hes⟩ := ih h.tail.tail
      obtain ⟨chars, others, hitems⟩ :=
        exists_items_eq_segment fun hgap => h.head?_ne (head?_eq_of_prefix_pair hgap)
      refine ⟨Atom.innerGap.expr :: es, ?_, fun before part after hpart => ?_⟩
      · rw [scan_gap, if_neg (by simpa using hne)]
        exact hyields.cons_atom .innerGap
      · rw [derivesAll_cons_iff (fun _ _ _ => derives_innerGap) hes hpart, hitems,
          matchesBehind_gap]
  | case4 rest _ hne ih =>
      obtain ⟨es, hyields, hes⟩ := ih h.tail
      have hhead : rest.head? ≠ some '.' := by
        intro hhead
        obtain ⟨others, hrest⟩ := List.head?_eq_some_iff.mp hhead
        exact hne others hrest
      obtain ⟨chars, others, hitems⟩ :=
        exists_items_eq_segment fun hgap => hhead (head?_eq_of_prefix_pair hgap)
      refine ⟨(Atom.char '.').expr :: es, ?_, fun before part after hpart => ?_⟩
      · rw [scan_cons (by simpa using hhead)]
        exact hyields.cons_atom (.char '.')
      · have hdot : ∀ before part after, '\n' ∉ part →
            ((Atom.char '.').expr.Derives before part after ↔ part = ['.']) := by
          simp [Atom.expr, has_exactly]
        rw [derivesAll_cons_iff hdot hes hpart, hitems, matchesBehind_dot]
        simp
  | case5 c rest _ _ hdot ih =>
      obtain ⟨es, hyields, hes⟩ := ih h.tail
      obtain ⟨hopen, hclose, hbranches⟩ := h.free c List.mem_cons_self
      refine ⟨(charAtom c).expr :: es, ?_, fun before part after hpart => ?_⟩
      · rw [scan_cons fun hc => hdot hc.1, charPiece_of_free hopen hclose hbranches (by simp),
          inBranchesAfter_of_free hbranches (by simp)]
        exact hyields.cons_atom _
      · rw [derivesAll_cons_iff (fun _ _ _ _ => derives_charAtom) hes hpart,
          matchesBehind_addChar hdot]

/-! ## Whole names -/

lemma exists_yields_pieces (h : Simple pattern) :
    ∃ es, Yields (pieces pattern) es ∧ ∀ name, '\n' ∉ name →
      (Expr.DerivesAll es [] name [] ↔ Matches (items pattern) (name.splitOn '.')) := by
  by_cases hlead : ['.', '.'] <+: pattern
  · obtain ⟨rest, rfl⟩ := hlead
    rw [List.cons_append, List.singleton_append] at h ⊢
    rw [pieces_gap]
    split_ifs with hempty
    · obtain rfl := List.isEmpty_iff.mp hempty
      refine ⟨[Atom.anything.expr], yields_atom .anything, fun name hname => ?_⟩
      rw [Expr.derivesAll_singleton, show items ['.', '.'] = [.gap] from rfl, matches_gap]
      exact ⟨fun _ => ⟨name.splitOn '.', [], by simp, .nil⟩, fun _ => derives_anything hname⟩
    · obtain ⟨es, hyields, hes⟩ := exists_yields_scan h.tail.tail
      obtain ⟨chars, others, hitems⟩ :=
        exists_items_eq_segment fun hgap => h.head?_ne (head?_eq_of_prefix_pair hgap)
      refine ⟨Atom.leadingGap.expr :: es, hyields.cons_atom .leadingGap, fun name hname => ?_⟩
      have hgap : items ('.' :: '.' :: rest) = .gap :: items rest := by
        rw [items]
        simpa using hempty
      rw [derivesAll_cons_iff (fun _ _ _ => derives_leadingGap) hes hname, hgap, hitems,
        matches_firstGap]
  · obtain ⟨es, hyields, hes⟩ := exists_yields_scan h
    obtain ⟨chars, others, hitems⟩ := exists_items_eq_segment hlead
    refine ⟨es, by rwa [pieces_eq_scan hlead], fun name hname => ?_⟩
    rw [hes _ _ _ hname, hitems, MatchesBehind, matches_segment]

/-- **A name matches a pattern exactly if its segments match the items of the pattern.**  The
pattern has no groups, no branches and no three dots in a row; it is always read, and parsed unless
it breaks a limit.  The name has no line feed. -/
theorem selects_iff_matches (text : String)
    (hfree : ∀ c ∈ text.toList, c ≠ '(' ∧ c ≠ ')' ∧ c ≠ '[')
    (hdots : ¬ ['.', '.', '.'] <:+: text.toList) :
    ∃ p, IsPatternOf p text ∧ ∀ name : String, '\n' ∉ name.toList →
      (p.selects name = true ↔ Matches (items text.toList) (name.toList.splitOn '.')) ∧
      (text = ".." → p.selects name = true) := by
  obtain ⟨es, hyields, hes⟩ := exists_yields_pieces ⟨hfree, hdots⟩
  have hcount : text.toList.count '(' = text.toList.count ')' := by
    rw [List.count_eq_zero.mpr fun h => (hfree _ h).1 rfl,
      List.count_eq_zero.mpr fun h => (hfree _ h).2.1 rfl]
  obtain ⟨p, hp, hselects⟩ := exists_isPatternOf hdots hcount hyields
  refine ⟨p, hp, fun name hname => ?_⟩
  have hiff := (hselects name).trans (hes _ hname)
  refine ⟨hiff, ?_⟩
  rintro rfl
  refine hiff.mpr ?_
  rw [show items "..".toList = [.gap] from rfl, matches_gap]
  exact ⟨name.toList.splitOn '.', [], by simp, .nil⟩

/-- A pattern with a leading `..`, and a name with two segments more. -/
theorem selects_iff_matches_leadingGap :
    ∃ p, IsPatternOf p "..a*.b" ∧ p.selects "x.y.ac.b" = true := by
  obtain ⟨p, hp, h⟩ := selects_iff_matches "..a*.b" (by simp) (by decide)
  refine ⟨p, hp, (h "x.y.ac.b" (by decide)).1.mpr ?_⟩
  have hitems : items "..a*.b".toList = [.gap, .segment ['a', '*'], .segment ['b']] := by decide
  have hname : "x.y.ac.b".toList.splitOn '.' = [['x'], ['y'], ['a', 'c'], ['b']] := by decide
  have hstar : SegmentMatches ['*'] (['c'] ++ []) :=
    .star (List.forall_mem_singleton.mpr (Or.inl (by decide))) .nil
  rw [hitems, hname]
  exact .gap [['x'], ['y']] (.segment (.char (by decide) hstar)
    (.segment (.char (by decide) .nil) .nil))

end ClassAtlas.PackagePattern
