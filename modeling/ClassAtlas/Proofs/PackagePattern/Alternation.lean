import ClassAtlas.Proofs.PackagePattern.Assembly

/-!
# Branches as patterns of their own

Branches between brackets may stand anywhere in a pattern: next to a `..`, in the middle of a
segment, behind other branches.  A name matches the pattern if it matches one of those in which a
single branch stands in the place of all.

Gaps are cut out before brackets are looked for, so a branch cannot hold a `..`.  It has no dot at
an end either, where the dot would join one outside as soon as the brackets are gone.

* `IsBranch`, `Complete` — what may stand between brackets, and around them.
* `Complete.scan_append`, `Complete.exists_yields` — the pieces of a complete text.
* `selects_alternation` — **a pattern with branches is the union of the patterns with one of them**.
-/

namespace ClassAtlas.PackagePattern

open Text

/-! ## Complete texts -/

/-- The characters that open, divide and close groups. -/
def marks : List Char :=
  ['(', ')', '[', ']', '|']

/-- What may stand between brackets and bars. -/
structure IsBranch (x : List Char) : Prop where
  ne_nil : x ≠ []
  head : x.head? ≠ some '.'
  last : x.getLast? ≠ some '.'
  noGap : ¬ ['.', '.'] <:+: x
  noMark : ∀ c ∈ x, c ∉ marks

/-- Branches between brackets. -/
def alternation (xs : List (List Char)) : List Char :=
  '[' :: (['|'].intercalate xs ++ [']'])

/-- Texts without parentheses that hold brackets and bars only as alternations. -/
inductive Complete : List Char → Prop
  | nil : Complete []
  | char {c : Char} {u : List Char} (hc : c ∉ marks) (hu : Complete u) : Complete (c :: u)
  | brackets {xs : List (List Char)} {u : List Char} (hne : xs ≠ [])
      (hxs : ∀ x ∈ xs, IsBranch x) (hu : Complete u) : Complete (alternation xs ++ u)

variable {u v x t : List Char} {xs : List (List Char)} {atEnd : Atom} {b : Bool}

lemma Complete.append (hu : Complete u) (hv : Complete v) : Complete (u ++ v) := by
  induction hu with
  | nil => exact hv
  | char hc _ ih => exact .char hc ih
  | brackets hne hxs _ ih =>
      rw [List.append_assoc]
      exact .brackets hne hxs ih

lemma complete_of_noMark (h : ∀ c ∈ u, c ∉ marks) : Complete u := by
  induction u with
  | nil => exact .nil
  | cons c u ih =>
      rw [List.forall_mem_cons] at h
      exact .char h.1 (ih h.2)

lemma complete_alternation (hne : xs ≠ []) (hxs : ∀ x ∈ xs, IsBranch x) :
    Complete (alternation xs) := by
  simpa using Complete.brackets hne hxs .nil

/-- A character that is no bracket and no bar is in an alternation only if it is in a branch. -/
lemma not_mem_alternation {a : Char} (ha : a ∉ ['[', '|', ']']) (hxs : ∀ x ∈ xs, a ∉ x) :
    a ∉ alternation xs := by
  have hbar : a ∉ ['|'].intercalate xs := by
    induction xs with
    | nil => simp
    | cons x xs ih =>
        rw [List.forall_mem_cons] at hxs
        by_cases hne : xs = []
        · simpa [hne] using hxs.1
        · rw [List.intercalate_cons_of_ne_nil hne]
          simp_all
  simp_all [alternation]

lemma Complete.not_mem_parens (hu : Complete u) : '(' ∉ u ∧ ')' ∉ u := by
  induction hu with
  | nil => simp
  | char hc _ ih => simp_all [marks, eq_comm]
  | brackets _ hxs _ ih =>
      rw [List.mem_append, List.mem_append, not_or, not_or]
      refine ⟨⟨not_mem_alternation (by decide) fun x hx hmem => ?_, ih.1⟩,
        not_mem_alternation (by decide) fun x hx hmem => ?_, ih.2⟩
      · exact (hxs x hx).noMark _ hmem (by decide)
      · exact (hxs x hx).noMark _ hmem (by decide)

lemma Complete.of_dot (h : Complete ('.' :: u)) : Complete u := by
  generalize htext : '.' :: u = text at h
  cases h with
  | nil => cases htext
  | char hc hu =>
      cases htext
      exact hu
  | brackets _ _ _ => cases htext

/-- Induction on a complete text that takes each `..` in one step, as the scan does. -/
@[elab_as_elim]
lemma Complete.induction_gaps {motive : ∀ u, Complete u → Prop} (nil : motive [] .nil)
    (gap : ∀ u (hu : Complete u) (h : Complete ('.' :: '.' :: u)), motive u hu → motive _ h)
    (char : ∀ c u (hc : c ∉ marks) (hu : Complete u), ¬ (c = '.' ∧ u.head? = some '.') →
      motive u hu → motive _ (.char hc hu))
    (brackets : ∀ xs u (hne : xs ≠ []) (hxs : ∀ x ∈ xs, IsBranch x) (hu : Complete u),
      motive u hu → motive _ (.brackets hne hxs hu)) (hu : Complete u) : motive u hu := by
  -- The step at a dot needs the statement for the text behind the next dot as well.
  suffices h : motive u hu ∧ ∀ v, u = '.' :: v → ∃ hv, motive v hv from h.1
  induction hu with
  | nil => exact ⟨nil, by simp⟩
  | @char c u hc hu ih =>
      refine ⟨?_, ?_⟩
      · by_cases hdots : c = '.' ∧ u.head? = some '.'
        · obtain ⟨rfl, hhead⟩ := hdots
          obtain ⟨v, rfl⟩ := List.head?_eq_some_iff.mp hhead
          obtain ⟨hv, hmotive⟩ := ih.2 v rfl
          exact gap v hv _ hmotive
        · exact char c u hc hu hdots ih.1
      · rintro v ⟨⟩
        exact ⟨hu, ih.1⟩
  | @brackets xs u hne hxs hu ih =>
      refine ⟨brackets xs u hne hxs hu ih.1, ?_⟩
      rintro v ⟨⟩

/-! ## The pieces of a complete text -/

lemma charPiece_of_not_mem_marks {c : Char} (hc : c ∉ marks) :
    charPiece b c = .atom (charAtom c) := by
  simp only [marks, List.mem_cons, List.not_mem_nil, or_false, not_or] at hc
  exact charPiece_of_free hc.1 hc.2.1 hc.2.2.1 fun _ => hc.2.2.2

lemma inBranchesAfter_of_not_mem_marks {c : Char} (hc : c ∉ marks) : inBranchesAfter b c = b := by
  simp only [marks, List.mem_cons, List.not_mem_nil, or_false, not_or] at hc
  exact inBranchesAfter_of_free hc.2.2.1 fun _ => hc.2.2.2.1

/-- The pieces of a branch, which are the same between brackets and outside. -/
def branchPieces (x : List Char) : List Piece :=
  x.map fun c => .atom (charAtom c)

lemma scan_branch (hlast : x.getLast? ≠ some '.') (hgap : ¬ ['.', '.'] <:+: x)
    (hmark : ∀ c ∈ x, c ∉ marks) :
    scan atEnd b (x ++ t) = branchPieces x ++ scan atEnd b t := by
  induction x with
  | nil => rfl
  | cons c x ih =>
      rw [List.forall_mem_cons] at hmark
      have hdots : ¬ (c = '.' ∧ (x ++ t).head? = some '.') := by
        rintro ⟨rfl, hhead⟩
        cases x with
        | nil => exact hlast rfl
        | cons d x =>
            obtain rfl : d = '.' := by simpa using hhead
            exact hgap (List.prefix_append ['.', '.'] x).isInfix
      have hlast' : x.getLast? ≠ some '.' := by
        cases x with
        | nil => simp
        | cons d x => simpa using hlast
      rw [List.cons_append, scan_cons hdots, charPiece_of_not_mem_marks hmark.1,
        inBranchesAfter_of_not_mem_marks hmark.1,
        ih hlast' (fun h => hgap (h.trans (List.suffix_cons c x).isInfix)) hmark.2]
      rfl

lemma IsBranch.scan_append (h : IsBranch x) :
    scan atEnd b (x ++ t) = branchPieces x ++ scan atEnd b t :=
  scan_branch h.last h.noGap h.noMark

lemma scan_intercalate (hne : xs ≠ []) (hxs : ∀ x ∈ xs, IsBranch x) :
    scan atEnd true (['|'].intercalate xs ++ ']' :: t) =
      [Piece.bar].intercalate (xs.map branchPieces) ++ .close :: scan atEnd false t := by
  induction xs with
  | nil => exact absurd rfl hne
  | cons x xs ih =>
      rw [List.forall_mem_cons] at hxs
      by_cases hrest : xs = []
      · subst hrest
        rw [List.intercalate_singleton, hxs.1.scan_append, scan_cons (by simp)]
        simp [charPiece, inBranchesAfter]
      · rw [List.intercalate_cons_of_ne_nil hrest, List.map_cons,
          List.intercalate_cons_of_ne_nil (by simpa using hrest), List.append_assoc,
          List.append_assoc, hxs.1.scan_append, List.singleton_append, scan_cons (by simp),
          show inBranchesAfter true '|' = true from rfl, ih hrest hxs.2]
        simp [charPiece]

/-- Brackets open and close one group, wherever they stand. -/
lemma scan_alternation (hne : xs ≠ []) (hxs : ∀ x ∈ xs, IsBranch x) :
    scan atEnd false (alternation xs ++ t) =
      (.openBranches :: [Piece.bar].intercalate (xs.map branchPieces) ++ [.close]) ++
        scan atEnd false t := by
  rw [alternation, List.cons_append, List.append_assoc, scan_cons (by simp),
    show inBranchesAfter false '[' = true from rfl, List.singleton_append,
    scan_intercalate hne hxs]
  simp [charPiece]

/-- A complete text is scanned on its own, unless its end could join what follows. -/
lemma Complete.scan_append (hu : Complete u) (ht : t ≠ []) (hhead : t.head? ≠ some '.') :
    scan atEnd false (u ++ t) = scan .innerGap false u ++ scan atEnd false t := by
  induction hu using Complete.induction_gaps with
  | nil => rfl
  | gap u _ _ ih =>
      rw [List.cons_append, List.cons_append, scan_gap, scan_gap, ih, if_neg (by simp [ht]),
        ite_self]
      rfl
  | char c u hc _ hdots ih =>
      have hdots' : ¬ (c = '.' ∧ (u ++ t).head? = some '.') := by
        rintro ⟨rfl, h⟩
        cases u with
        | nil => exact hhead h
        | cons d u => exact hdots ⟨rfl, h⟩
      rw [List.cons_append, scan_cons hdots', scan_cons hdots, inBranchesAfter_of_not_mem_marks hc,
        ih]
      rfl
  | brackets xs u hne hxs _ ih =>
      rw [List.append_assoc, scan_alternation hne hxs, scan_alternation hne hxs, ih]
      simp only [List.append_assoc]

/-! ## What the pieces come to -/

/-- The expressions of a branch. -/
def branchExprs (x : List Char) : List Expr :=
  x.map fun c => (charAtom c).expr

lemma yields_branchPieces (x : List Char) : Yields (branchPieces x) (branchExprs x) := by
  induction x with
  | nil => exact yields_nil
  | cons c x ih => exact ih.cons_atom (charAtom c)

lemma yields_alternation (hne : xs ≠ []) :
    Yields (.openBranches :: [Piece.bar].intercalate (xs.map branchPieces) ++ [.close])
      [Expr.ofBranches ((xs.map branchExprs).map Expr.reading.sequence)] := by
  refine yields_branches ?_ (by simpa using hne)
  rw [List.forall₂_map_left_iff, List.forall₂_map_right_iff, List.forall₂_same]
  exact fun x _ => yields_branchPieces x

/-- **The pieces of a complete text close what they open.** -/
lemma Complete.exists_yields (hu : Complete u) (atEnd : Atom) :
    ∃ es, Yields (scan atEnd false u) es := by
  induction hu using Complete.induction_gaps with
  | nil => exact ⟨[], by simpa using yields_nil⟩
  | gap u _ _ ih =>
      obtain ⟨es, hes⟩ := ih
      exact ⟨_, by rw [scan_gap]; exact hes.cons_atom _⟩
  | char c u hc _ hdots ih =>
      obtain ⟨es, hes⟩ := ih
      refine ⟨(charAtom c).expr :: es, ?_⟩
      rw [scan_cons hdots, charPiece_of_not_mem_marks hc, inBranchesAfter_of_not_mem_marks hc]
      exact hes.cons_atom _
  | brackets xs u hne hxs _ ih =>
      obtain ⟨es, hes⟩ := ih
      exact ⟨_, by rw [scan_alternation hne hxs]; exact (yields_alternation hne).append hes⟩

/-- The pieces of a complete text at the start of a pattern, the same whatever follows. -/
lemma Complete.exists_pieces_append (hu : Complete u) :
    ∃ ps es, Yields ps es ∧ ∀ t, t ≠ [] → t.head? ≠ some '.' →
      pieces (u ++ t) = ps ++ scan .trailingGap false t := by
  by_cases hlead : ['.', '.'] <+: u
  · obtain ⟨v, rfl⟩ := hlead
    have hv : Complete v := Complete.of_dot (Complete.of_dot hu)
    obtain ⟨es, hes⟩ := hv.exists_yields .innerGap
    refine ⟨_, _, hes.cons_atom .leadingGap, fun t ht hhead => ?_⟩
    rw [List.append_assoc, List.cons_append, List.singleton_append, pieces_gap,
      if_neg (by simp [ht]), hv.scan_append ht hhead]
    rfl
  · obtain ⟨es, hes⟩ := hu.exists_yields .innerGap
    refine ⟨_, _, hes, fun t ht hhead => ?_⟩
    have hlead' : ¬ ['.', '.'] <+: u ++ t := by
      rintro ⟨rest, h⟩
      rcases u with _ | ⟨c, _ | ⟨d, u⟩⟩
      · exact hhead (List.head?_eq_some_iff.mpr ⟨'.' :: rest, h.symm⟩)
      · exact hhead (List.head?_eq_some_iff.mpr ⟨rest, (List.cons.inj h).2.symm⟩)
      · simp only [List.cons_append, List.nil_append, List.cons.injEq] at h
        obtain ⟨rfl, rfl, -⟩ := h
        exact hlead (List.prefix_append _ u)
    rw [pieces_eq_scan hlead', hu.scan_append ht hhead]

/-! ## Branches one by one -/

/-- Three dots do not lie across the border of two texts of which one has no dot there. -/
lemma infix_dots_append (hborder : u.getLast? ≠ some '.' ∨ v.head? ≠ some '.')
    (h : ['.', '.', '.'] <:+: u ++ v) : ['.', '.', '.'] <:+: u ∨ ['.', '.', '.'] <:+: v := by
  rcases List.infix_append_iff.mp h with h | h | ⟨front, back, hsplit, hfront, hback⟩
  · exact Or.inl h
  · exact Or.inr h
  · have hdot : ∀ c ∈ front ++ back, c = '.' := by
      rw [← hsplit]
      simp
    rcases front.eq_nil_or_concat with rfl | ⟨front, c, rfl⟩
    · exact Or.inr (hsplit ▸ hback.isInfix)
    · rcases back with _ | ⟨d, back⟩
      · rw [List.append_nil] at hsplit
        exact Or.inl (hsplit ▸ hfront.isInfix)
      · obtain ⟨rest, rfl⟩ := hfront
        obtain ⟨rest', rfl⟩ := hback
        obtain rfl := hdot c (by simp)
        obtain rfl := hdot d (by simp)
        simp at hborder

/-- The text with one branch in the place of all has no three dots either. -/
lemma IsBranch.not_infix_dots (h : IsBranch x) (hu : ¬ ['.', '.', '.'] <:+: u)
    (hv : ¬ ['.', '.', '.'] <:+: v) : ¬ ['.', '.', '.'] <:+: u ++ (x ++ v) := by
  intro hdots
  have hhead : (x ++ v).head? ≠ some '.' := by
    rw [List.head?_append_of_ne_nil _ h.ne_nil]
    exact h.head
  rcases infix_dots_append (Or.inr hhead) hdots with hdots | hdots
  · exact hu hdots
  · rcases infix_dots_append (Or.inl h.last) hdots with hdots | hdots
    · exact h.noGap ((List.prefix_append ['.', '.'] ['.']).isInfix.trans hdots)
    · exact hv hdots

lemma derives_alternation (hne : xs ≠ []) {before part after : List Char} :
    (Expr.ofBranches ((xs.map branchExprs).map Expr.reading.sequence)).Derives before part after ↔
      ∃ x ∈ xs, Expr.DerivesAll (branchExprs x) before part after := by
  rw [Expr.derives_ofBranches (by simpa using hne)]
  simp [Expr.derives_sequence]

/-- A choice between branches, with further expressions around it. -/
lemma derivesAll_alternation (hne : xs ≠ []) (es fs : List Expr) {before part after : List Char} :
    Expr.DerivesAll
        (es ++ ([Expr.ofBranches ((xs.map branchExprs).map Expr.reading.sequence)] ++ fs))
        before part after ↔
      ∃ x ∈ xs, Expr.DerivesAll (es ++ (branchExprs x ++ fs)) before part after := by
  simp only [Expr.derivesAll_append, Expr.derivesAll_singleton, derives_alternation hne]
  constructor
  · rintro ⟨first, _, rfl, hes, middle, last, rfl, ⟨x, hx, hbranch⟩, hfs⟩
    exact ⟨x, hx, first, _, rfl, hes, middle, last, rfl, hbranch, hfs⟩
  · rintro ⟨x, hx, first, _, rfl, hes, middle, last, rfl, hbranch, hfs⟩
    exact ⟨first, _, rfl, hes, middle, last, rfl, ⟨x, hx, hbranch⟩, hfs⟩

/-- The pattern of a text that stands between two complete texts and is scanned on its own. -/
lemma exists_isPatternOf_between (hu : Complete u) (hv : Complete v) :
    ∃ es fs, ∀ m ps gs, Complete m → m ≠ [] → m.head? ≠ some '.' → Yields ps gs →
      scan .trailingGap false (m ++ v) = ps ++ scan .trailingGap false v →
      ¬ ['.', '.', '.'] <:+: u ++ (m ++ v) →
      ∃ p, IsPatternOf p (String.ofList (u ++ (m ++ v))) ∧ ∀ name : String,
        p.selects name = true ↔ Expr.DerivesAll (es ++ (gs ++ fs)) [] name.toList [] := by
  obtain ⟨ps, es, hes, hpieces⟩ := hu.exists_pieces_append
  obtain ⟨fs, hfs⟩ := hv.exists_yields .trailingGap
  refine ⟨es, fs, fun m qs gs hm hne hhead hgs hscan hdots => ?_⟩
  have hyields : Yields (pieces (u ++ (m ++ v))) (es ++ (gs ++ fs)) := by
    rw [hpieces _ (by simp [hne]) (by rwa [List.head?_append_of_ne_nil _ hne]), hscan]
    exact hes.append (hgs.append hfs)
  obtain ⟨hopen, hclose⟩ := (hu.append (hm.append hv)).not_mem_parens
  refine exists_isPatternOf (by rwa [String.toList_ofList]) ?_ (by rwa [String.toList_ofList])
  rw [String.toList_ofList, List.count_eq_zero.mpr hopen, List.count_eq_zero.mpr hclose]

/-- **A pattern with branches is the union of the patterns with one of them.**  The pattern and the
others are all read, and parsed unless they break a limit. -/
theorem selects_alternation (hu : Complete u) (hv : Complete v) (hne : xs ≠ [])
    (hxs : ∀ x ∈ xs, IsBranch x) (hdots : ¬ ['.', '.', '.'] <:+: u ++ (alternation xs ++ v)) :
    ∃ p, IsPatternOf p (String.ofList (u ++ (alternation xs ++ v))) ∧
      (∀ x ∈ xs, ∃ q, IsPatternOf q (String.ofList (u ++ (x ++ v)))) ∧
      ∀ name : String, p.selects name = true ↔
        ∃ x ∈ xs, ∃ q, IsPatternOf q (String.ofList (u ++ (x ++ v))) ∧ q.selects name = true := by
  obtain ⟨es, fs, hpattern⟩ := exists_isPatternOf_between hu hv
  obtain ⟨p, hp, hselects⟩ := hpattern (alternation xs) _ _ (complete_alternation hne hxs)
    (List.cons_ne_nil _ _) (by simp [alternation]) (yields_alternation hne)
    (scan_alternation hne hxs) hdots
  have hdots_u : ¬ ['.', '.', '.'] <:+: u := fun h =>
    hdots (h.trans (List.prefix_append u _).isInfix)
  have hdots_v : ¬ ['.', '.', '.'] <:+: v := fun h =>
    hdots (h.trans ((List.suffix_append _ v).trans (List.suffix_append u _)).isInfix)
  have hbranch : ∀ x ∈ xs, ∃ q, IsPatternOf q (String.ofList (u ++ (x ++ v))) ∧
      ∀ name : String, q.selects name = true ↔
        Expr.DerivesAll (es ++ (branchExprs x ++ fs)) [] name.toList [] := fun x hx =>
    hpattern x _ _ (complete_of_noMark (hxs x hx).noMark) (hxs x hx).ne_nil (hxs x hx).head
      (yields_branchPieces x) (hxs x hx).scan_append ((hxs x hx).not_infix_dots hdots_u hdots_v)
  refine ⟨p, hp, fun x hx => (hbranch x hx).imp fun q => And.left, fun name => ?_⟩
  rw [hselects, derivesAll_alternation hne]
  refine exists_congr fun x => and_congr_right fun hx => ?_
  obtain ⟨q, hq, hselects⟩ := hbranch x hx
  constructor
  · intro h
    exact ⟨q, hq, (hselects name).mpr h⟩
  · rintro ⟨q', hq', h⟩
    exact (hselects name).mp (hq.unique hq' ▸ h)

/-- Branches between two gaps, one of which matches. -/
theorem selects_alternation_gaps :
    ∃ p, IsPatternOf p "..[web|re*t].." ∧ p.selects "org.rest.api" = true ∧
      p.selects "org.wet.api" = false := by
  have hgap : Complete ['.', '.'] := complete_of_noMark (by simp [marks])
  have hbranches : ∀ x ∈ [['w', 'e', 'b'], ['r', 'e', '*', 't']], IsBranch x := by
    simp only [List.forall_mem_cons, List.not_mem_nil, false_implies, implies_true, and_true]
    exact ⟨⟨by simp, by simp, by simp, by decide, by simp [marks]⟩,
      ⟨by simp, by simp, by simp, by decide, by simp [marks]⟩⟩
  obtain ⟨p, hp, hread, hselects⟩ :=
    selects_alternation hgap hgap (List.cons_ne_nil _ _) hbranches (by decide)
  refine ⟨p, hp, (hselects _).mpr ?_, Bool.eq_false_iff.mpr fun h => ?_⟩
  · obtain ⟨q, hq⟩ := hread ['r', 'e', '*', 't'] (by simp)
    exact ⟨_, by simp, q, hq, hq.selects_eq (by decide +kernel)⟩
  · obtain ⟨x, hx, q, hq, hselected⟩ := (hselects _).mp h
    simp only [List.mem_cons, List.not_mem_nil, or_false] at hx
    rcases hx with rfl | rfl
    · exact absurd hselected (Bool.eq_false_iff.mp (hq.selects_eq (by decide +kernel)))
    · exact absurd hselected (Bool.eq_false_iff.mp (hq.selects_eq (by decide +kernel)))

end ClassAtlas.PackagePattern
