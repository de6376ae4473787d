import ClassAtlas.Proofs.PackagePattern.Assembly

/-!
# Groups and what matches

A group captures what it encloses.  To a name it should not matter whether a part of the pattern is
enclosed, and mostly it does not.  There are three exceptions.

* A `..` is in front or at the end only if nothing stands before or behind it, not even a
  parenthesis.  So `(..)a` does not match `a`.
* Two dots are a `..` only if nothing stands between them: `a.(.b)` has none.
* A bar inside a group divides the group and not the branch it stands in: `[(a|b)c]` matches `ac`.

In all other patterns, the two stack machines that put the pattern together with and without its
groups go side by side.  What the one keeps in several groups, the other keeps in one (`Level`).

* `ungrouped` — a pattern without its parentheses.
* `DotsKept`, `keepsBranches` — the patterns that are none of the exceptions.
* `Related.run` — both machines side by side, over a whole pattern.
* `selects_ungrouped` — **groups do not change what matches, and each captures something**.
* `selects_ungrouped_ne` — the exceptions happen.
-/

namespace ClassAtlas.PackagePattern

open Text

/-! ## Texts without parentheses -/

def isParen (c : Char) : Bool :=
  c == '(' || c == ')'

/-- The text without its parentheses. -/
def ungrouped (text : List Char) : List Char :=
  text.filter fun c => !isParen c

/-- Without the parentheses, no two dots become a `..`, and no `..` comes to the end. -/
structure GapsKept (text : List Char) : Prop where
  between : ∀ t ∈ text.tails, t.head? = some '.' → ['.', '.'] <+: ungrouped t → ['.', '.'] <+: t
  finish : ['.', '.'] <:+ ungrouped text → ['.', '.'] <:+ text

/-- Without the parentheses, no two dots become a `..`, and no `..` comes to the start or the
end. -/
structure DotsKept (text : List Char) : Prop extends GapsKept text where
  start : ['.', '.'] <+: ungrouped text → ['.', '.'] <+: text

/-- Each branch between brackets closes the groups that it opens, and no others.  The first argument
counts the groups that are open in the current branch, if there is one. -/
def keepsBranches : Option ℕ → List Char → Bool
  | _, [] => true
  | none, c :: rest => keepsBranches (if c = '[' then some 0 else none) rest
  | some k, c :: rest =>
    if c = '(' then keepsBranches (some (k + 1)) rest
    else if c = ')' then k != 0 && keepsBranches (some (k - 1)) rest
    else if c = ']' then k == 0 && keepsBranches none rest
    else if c = '|' then k == 0 && keepsBranches (some k) rest
    else keepsBranches (some k) rest

variable {c : Char} {t : List Char} {b : Bool} {atEnd : Atom} {k : ℕ} {level : Option ℕ}

lemma keepsBranches_open :
    keepsBranches level ('(' :: t) = keepsBranches (level.map (· + 1)) t := by
  cases level <;> rfl

lemma keepsBranches_of_free (hopen : c ≠ '(') (hclose : c ≠ ')') (hbranches : c ≠ '[')
    (hlevel : level.isSome = true → c ≠ ']' ∧ c ≠ '|') :
    keepsBranches level (c :: t) = keepsBranches level t := by
  cases level with
  | none => simp [keepsBranches, hbranches]
  | some k => simp [keepsBranches, hopen, hclose, (hlevel rfl).1, (hlevel rfl).2]

@[simp]
lemma ungrouped_nil : ungrouped [] = [] :=
  rfl

lemma ungrouped_cons_of_isParen (hc : isParen c = true) : ungrouped (c :: t) = ungrouped t := by
  simp [ungrouped, hc]

lemma ungrouped_cons (hc : isParen c = false) : ungrouped (c :: t) = c :: ungrouped t := by
  simp [ungrouped, hc]

lemma ungrouped_gap : ungrouped ('.' :: '.' :: t) = '.' :: '.' :: ungrouped t :=
  rfl

lemma isParen_of_mem_ungrouped (h : c ∈ ungrouped t) : isParen c = false := by
  simpa using (List.mem_filter.mp h).2

lemma GapsKept.tail (h : GapsKept (c :: t)) : GapsKept t := by
  refine ⟨fun u hu => h.between u (List.mem_cons_of_mem _ hu), fun hend => ?_⟩
  have hsuffix : ungrouped t <:+ ungrouped (c :: t) := (List.suffix_cons c t).filter _
  rcases List.suffix_cons_iff.mp (h.finish (hend.trans hsuffix)) with hall | hend'
  · obtain ⟨-, rfl⟩ := List.cons.inj hall
    exact absurd hend (by decide)
  · exact hend'

/-- A `..` that is followed only by parentheses is followed by nothing. -/
lemma GapsKept.isEmpty_ungrouped (h : GapsKept ('.' :: '.' :: t)) :
    (ungrouped t).isEmpty = t.isEmpty := by
  rw [Bool.eq_iff_iff, List.isEmpty_iff, List.isEmpty_iff]
  refine ⟨fun hnil => ?_, fun hnil => by rw [hnil, ungrouped_nil]⟩
  by_contra hne
  have hlast : ('.' :: '.' :: t).getLast? = some '.' := by
    obtain ⟨init, hinit⟩ := h.finish (by rw [ungrouped_gap, hnil])
    rw [← hinit]
    simp
  have hmem : '.' ∈ ungrouped t := by
    obtain ⟨d, rest, rfl⟩ := List.exists_cons_of_ne_nil hne
    rw [List.getLast?_cons_cons, List.getLast?_cons_cons] at hlast
    exact List.mem_filter.mpr ⟨List.mem_of_getLast? hlast, rfl⟩
  rw [hnil] at hmem
  exact List.not_mem_nil hmem

/-- Two characters that are no `..` are none without the parentheses between them. -/
lemma GapsKept.not_gap_ungrouped (h : GapsKept (c :: t))
    (hdots : ¬ (c = '.' ∧ t.head? = some '.')) : ¬ (c = '.' ∧ (ungrouped t).head? = some '.') := by
  rintro ⟨rfl, hhead⟩
  obtain ⟨rest, hrest⟩ := List.head?_eq_some_iff.mp hhead
  have hgap : ['.', '.'] <+: ungrouped ('.' :: t) := by
    rw [ungrouped_cons (c := '.') rfl, hrest]
    exact List.prefix_append ['.', '.'] rest
  obtain ⟨rest', ht⟩ := h.between ('.' :: t) (by simp) rfl hgap
  exact hdots ⟨rfl, List.head?_eq_some_iff.mpr ⟨rest', (List.cons.inj ht).2.symm⟩⟩

/-! ## Expressions that derive the same -/

namespace Expr

/-- The expressions derive the same, in every surrounding. -/
def Equivalent (e f : Expr) : Prop :=
  ∀ before part after, e.Derives before part after ↔ f.Derives before part after

/-- One behind the other, the expressions derive the same. -/
def AllEquivalent (es fs : List Expr) : Prop :=
  ∀ before part after, DerivesAll es before part after ↔ DerivesAll fs before part after

variable {es fs es' fs' : List Expr}

lemma AllEquivalent.refl (es : List Expr) : AllEquivalent es es :=
  fun _ _ _ => Iff.rfl

lemma AllEquivalent.append (h : AllEquivalent es fs) (h' : AllEquivalent es' fs') :
    AllEquivalent (es ++ es') (fs ++ fs') := by
  intro before part after
  rw [derivesAll_append, derivesAll_append]
  exact exists_congr fun first => exists_congr fun rest =>
    and_congr_right fun _ => and_congr (h _ _ _) (h' _ _ _)

lemma AllEquivalent.sequence (h : AllEquivalent es fs) :
    Equivalent (reading.sequence es) (reading.sequence fs) := by
  intro before part after
  rw [derives_sequence, derives_sequence]
  exact h before part after

lemma exists_derives_congr (h : List.Forall₂ Equivalent es fs) (before part after : List Char) :
    (∃ e ∈ es, e.Derives before part after) ↔ ∃ f ∈ fs, f.Derives before part after := by
  induction h with
  | nil => rfl
  | cons hef _ ih => rw [List.exists_mem_cons_iff, List.exists_mem_cons_iff, hef, ih]

end Expr

variable {g g' around : OpenGroup Expr} {gs : List (OpenGroup Expr)}

/-- Groups with branches that derive the same derive the same. -/
lemma equivalent_body (hbranches : List.Forall₂ Expr.Equivalent g.branches g'.branches)
    (hitems : Expr.AllEquivalent g.items.reverse g'.items.reverse) :
    Expr.Equivalent (g.body Expr.reading) (g'.body Expr.reading) := by
  intro before part after
  rw [body_eq_ofBranches, body_eq_ofBranches, Expr.derives_ofBranches (by simp [OpenGroup.divide]),
    Expr.derives_ofBranches (by simp [OpenGroup.divide])]
  simp only [List.mem_reverse]
  exact Expr.exists_derives_congr (.cons hitems.sequence hbranches) before part after

/-- A group without bars derives what its items do, whether it captures or not. -/
lemma allEquivalent_group (hbranches : g.branches = []) :
    Expr.AllEquivalent [Expr.reading.group g.index (g.body Expr.reading)] g.items.reverse := by
  intro before part after
  have hbody : g.body Expr.reading = Expr.reading.sequence g.items.reverse := by
    simp [OpenGroup.body, OpenGroup.divide, hbranches]
  rw [Expr.derivesAll_singleton, hbody, ← Expr.derives_sequence]
  cases g.index with
  | none => rfl
  | some index => exact Expr.derives_group

/-! ## Levels of groups -/

/-- What one machine keeps in `k` groups and what is around them, the other keeps in one group.  The
items of that group are those of the others, from the outermost to the innermost. -/
inductive Level : ℕ → List (OpenGroup Expr) → OpenGroup Expr → Prop
  | base {g g' : OpenGroup Expr} (hindex : g.index = none) (hindex' : g'.index = none)
      (hbranches : List.Forall₂ Expr.Equivalent g.branches g'.branches)
      (hitems : Expr.AllEquivalent g.items.reverse g'.items.reverse) : Level 0 [g] g'
  | group {k : ℕ} {gs : List (OpenGroup Expr)} {g g' : OpenGroup Expr} {es : List Expr}
      (h : Level k gs g') (hbranches : g.branches = [])
      (hitems : Expr.AllEquivalent g.items.reverse es) : Level (k + 1) (g :: gs) (g'.pushAll es)

namespace Level

lemma exists_cons (h : Level k gs g') : ∃ g others, gs = g :: others := by
  cases h with
  | base => exact ⟨_, _, rfl⟩
  | group => exact ⟨_, _, rfl⟩

/-- An item of the innermost group is some items of the other machine. -/
lemma push (h : Level k (g :: gs) g') {e : Expr} {es : List Expr} (he : Expr.AllEquivalent [e] es) :
    Level k (g.push e :: gs) (g'.pushAll es) := by
  cases h with
  | base hindex hindex' hbranches hitems =>
      refine .base hindex hindex' hbranches ?_
      simpa [OpenGroup.push, OpenGroup.pushAll] using hitems.append he
  | group h hbranches hitems =>
      rw [OpenGroup.pushAll_pushAll]
      refine .group h hbranches ?_
      simpa [OpenGroup.push] using hitems.append he

lemma openGroup (h : Level k gs g') (index : Option ℕ) : Level (k + 1) (⟨index, [], []⟩ :: gs) g' :=
  show Level (k + 1) _ (g'.pushAll []) from .group h rfl (Expr.AllEquivalent.refl [])

lemma closeGroup (h : Level (k + 1) (g :: around :: gs) g') :
    Level k (around.push (Expr.reading.group g.index (g.body Expr.reading)) :: gs) g' := by
  cases h with
  | group h hbranches hitems =>
      refine h.push fun before part after => ?_
      rw [allEquivalent_group hbranches, hitems]

lemma divide (h : Level 0 [g] g') : Level 0 [g.divide Expr.reading] (g'.divide Expr.reading) := by
  cases h with
  | base hindex hindex' hbranches hitems =>
      exact .base hindex hindex' (.cons hitems.sequence hbranches) (Expr.AllEquivalent.refl [])

lemma body (h : Level 0 [g] g') : Expr.Equivalent (g.body Expr.reading) (g'.body Expr.reading) := by
  cases h with
  | base _ _ hbranches hitems => exact equivalent_body hbranches hitems

end Level

/-! ## Both machines side by side -/

/-- The open groups of the machine that sees the groups and of the one that does not: outside of
brackets, and between brackets with `k` groups open in the current branch. -/
inductive Related : Option ℕ → OpenGroups Expr → OpenGroups Expr → Prop
  | outside {k : ℕ} {g g' : OpenGroup Expr} {gs : List (OpenGroup Expr)} {n n' : ℕ}
      (h : Level k (g :: gs) g') : Related none ⟨g, gs, n⟩ ⟨g', [], n'⟩
  | inside {k m : ℕ} {g g' around around' : OpenGroup Expr} {gs outer : List (OpenGroup Expr)}
      {n n' : ℕ} (h : Level k (g :: gs) g') (houter : Level m (around :: outer) around') :
      Related (some k) ⟨g, gs ++ around :: outer, n⟩ ⟨g', [around'], n'⟩

namespace Related

variable {s s₁ t t₁ : OpenGroups Expr} {level : Option ℕ}

lemma atom (h : Related level s t) (a : Atom) (hs : s.step Expr.reading (.atom a) = .ok s₁)
    (ht : t.step Expr.reading (.atom a) = .ok t₁) : Related level s₁ t₁ := by
  cases hs
  cases ht
  cases h with
  | outside h => exact .outside (h.push (Expr.AllEquivalent.refl [_]))
  | inside h houter => exact .inside (h.push (Expr.AllEquivalent.refl [_])) houter

lemma openGroup (h : Related level s t) (hs : s.step Expr.reading .openGroup = .ok s₁) :
    Related (level.map (· + 1)) s₁ t := by
  cases hs
  cases h with
  | outside h => exact .outside (h.openGroup _)
  | inside h houter => exact .inside (h.openGroup _) houter

lemma closeGroup_outside (h : Related none s t) (hs : s.step Expr.reading .close = .ok s₁) :
    Related none s₁ t := by
  cases h with
  | @outside k g g' gs n n' h =>
      cases h with
      | base => cases hs
      | group h hbranches hitems =>
          obtain ⟨around, gs, rfl⟩ := h.exists_cons
          cases hs
          exact .outside (Level.group h hbranches hitems).closeGroup

lemma closeGroup_inside (h : Related (some (k + 1)) s t)
    (hs : s.step Expr.reading .close = .ok s₁) : Related (some k) s₁ t := by
  cases h with
  | inside h houter =>
      cases h with
      | group h hbranches hitems =>
          obtain ⟨around, gs, rfl⟩ := h.exists_cons
          cases hs
          exact .inside (Level.group h hbranches hitems).closeGroup houter

lemma openBranches (h : Related none s t) (hs : s.step Expr.reading .openBranches = .ok s₁)
    (ht : t.step Expr.reading .openBranches = .ok t₁) : Related (some 0) s₁ t₁ := by
  cases hs
  cases ht
  cases h with
  | @outside k g g' gs n n' h =>
      have hbranches : Level 0 [⟨none, [], []⟩] ⟨none, [], []⟩ :=
        .base rfl rfl .nil (Expr.AllEquivalent.refl [])
      exact .inside hbranches h

lemma bar (h : Related (some 0) s t) (hs : s.step Expr.reading .bar = .ok s₁)
    (ht : t.step Expr.reading .bar = .ok t₁) : Related (some 0) s₁ t₁ := by
  cases hs
  cases ht
  cases h with
  | @inside k m g g' around around' gs outer n n' h houter =>
      obtain rfl : gs = [] := by cases h; rfl
      exact .inside h.divide houter

lemma closeBranches (h : Related (some 0) s t) (hs : s.step Expr.reading .close = .ok s₁)
    (ht : t.step Expr.reading .close = .ok t₁) : Related none s₁ t₁ := by
  cases h with
  | @inside k m g g' around around' gs outer n n' h houter =>
      obtain rfl : gs = [] := by cases h; rfl
      cases hs
      cases ht
      have hbody := h.body
      cases h with
      | base hindex hindex' _ _ =>
          have hitem : Expr.AllEquivalent [Expr.reading.group g.index (g.body Expr.reading)]
              [Expr.reading.group g'.index (g'.body Expr.reading)] := by
            intro before part after
            rw [Expr.derivesAll_singleton, Expr.derivesAll_singleton, hindex, hindex']
            exact hbody before part after
          exact .outside (houter.push hitem)

end Related

/-! ## Whole patterns -/

variable {s s' u u' : OpenGroups Expr}

/-- Without parentheses, a `[` is closed only while nothing else is open and no `..` came. -/
lemma outer_length_le {t : List Char} (ht : ∀ c ∈ t, isParen c = false)
    (hrun : (scan atEnd b t).foldlM (OpenGroups.step Expr.reading) s = .ok s')
    (houter : s'.outer = []) : s.outer.length ≤ b.toNat := by
  induction t using gap_induction generalizing b s with
  | nil =>
      rw [scan_nil] at hrun
      cases hrun
      simp [houter]
  | gap rest ih =>
      rw [scan_gap] at hrun
      obtain ⟨s₁, hstep, hrest⟩ := exists_of_foldlM_cons hrun
      have hle := ih (fun c hc => ht c (by simp [hc])) hrest
      cases hstep
      exact hle.trans (Nat.zero_le _)
  | cons c rest hdots ih =>
      rw [scan_cons hdots] at hrun
      obtain ⟨s₁, hstep, hrest⟩ := exists_of_foldlM_cons hrun
      rw [List.forall_mem_cons] at ht
      have hle := ih ht.2 hrest
      have hscanned := scanned b c
      generalize charPiece b c = piece, inBranchesAfter b c = b' at hstep hle hscanned
      cases hscanned with
      | openGroup => exact absurd ht.1 (by decide)
      | closeGroup => exact absurd ht.1 (by decide)
      | openBranches =>
          cases hstep
          exact (Nat.le_of_succ_le_succ hle).trans (Nat.zero_le _)
      | closeBranches =>
          rcases s with ⟨inner, _ | ⟨around, outer⟩, groups⟩
          · cases hstep
          · cases hstep
            exact Nat.succ_le_succ hle
      | bar | text =>
          cases hstep
          exact hle

/-- The step at a parenthesis, which only one machine sees. -/
lemma Related.step_paren (h : Related level s u) (hc : isParen c = true)
    (hkeeps : keepsBranches level (c :: t) = true)
    (hs : s.step Expr.reading (charPiece level.isSome c) = .ok s') :
    ∃ level', Related level' s' u ∧ keepsBranches level' t = true ∧
      level'.isSome = level.isSome ∧ inBranchesAfter level.isSome c = level.isSome := by
  have hscanned := scanned level.isSome c
  generalize hlevel : level.isSome = b at hs hscanned
  generalize charPiece b c = piece, inBranchesAfter b c = b' at hs hscanned
  cases hscanned with
  | openGroup =>
      rw [keepsBranches_open] at hkeeps
      exact ⟨_, h.openGroup hs, hkeeps, by rw [Option.isSome_map, hlevel], rfl⟩
  | closeGroup =>
      rcases level with _ | _ | k
      · exact ⟨none, h.closeGroup_outside hs, hkeeps, hlevel, rfl⟩
      · cases hkeeps
      · exact ⟨some k, h.closeGroup_inside hs, hkeeps, hlevel, rfl⟩
  | text hopen hclose => simp [isParen, hopen, hclose] at hc
  | _ => cases hc

/-- The step at any other character, at which the machine without groups must not open a bracket
between brackets. -/
lemma Related.step_char (h : Related level s u) (hc : isParen c = false)
    (hkeeps : keepsBranches level (c :: t) = true)
    (hs : s.step Expr.reading (charPiece level.isSome c) = .ok s')
    (hu : u.step Expr.reading (charPiece level.isSome c) = .ok u')
    (hle : u'.outer.length ≤ (inBranchesAfter level.isSome c).toNat) :
    ∃ level', Related level' s' u' ∧ keepsBranches level' t = true ∧
      inBranchesAfter level.isSome c = level'.isSome := by
  have hscanned := scanned level.isSome c
  generalize hlevel : level.isSome = b at hs hu hle hscanned
  generalize charPiece b c = piece, inBranchesAfter b c = b' at hs hu hle hscanned
  cases hscanned with
  | openGroup => cases hc
  | closeGroup => cases hc
  | openBranches =>
      cases h with
      | outside h => exact ⟨some 0, (Related.outside h).openBranches hs hu, hkeeps, rfl⟩
      | inside =>
          cases hu
          simp at hle
  | closeBranches =>
      rcases level with _ | _ | k
      · cases hlevel
      · exact ⟨none, h.closeBranches hs hu, hkeeps, rfl⟩
      · cases hkeeps
  | bar =>
      rcases level with _ | _ | k
      · cases hlevel
      · exact ⟨some 0, h.bar hs hu, hkeeps, rfl⟩
      · cases hkeeps
  | text hopen hclose hbranches hb =>
      rw [keepsBranches_of_free hopen hclose hbranches (hlevel ▸ hb)] at hkeeps
      exact ⟨level, h.atom _ hs hu, hkeeps, hlevel.symm⟩

/-- **Both machines stay side by side**, the one on the text and the other on the text without
its parentheses. -/
theorem Related.run {text : List Char} (hkept : GapsKept text)
    (hkeeps : keepsBranches level text = true) (h : Related level s u)
    (hs : (scan atEnd level.isSome text).foldlM (OpenGroups.step Expr.reading) s = .ok s')
    (hu : (scan atEnd level.isSome (ungrouped text)).foldlM (OpenGroups.step Expr.reading) u =
      .ok u')
    (houter : u'.outer = []) : Related none s' u' := by
  induction text using gap_induction generalizing level s u with
  | nil =>
      rw [ungrouped_nil, scan_nil] at hu
      rw [scan_nil] at hs
      cases hs
      cases hu
      cases h with
      | outside h => exact .outside h
      | inside => cases houter
  | gap rest ih =>
      have hlast : (ungrouped rest).isEmpty = rest.isEmpty := hkept.isEmpty_ungrouped
      rw [scan_gap] at hs
      rw [ungrouped_gap, scan_gap, hlast] at hu
      obtain ⟨s₁, hs₁, hs⟩ := exists_of_foldlM_cons hs
      obtain ⟨u₁, hu₁, hu⟩ := exists_of_foldlM_cons hu
      -- The machine without groups has nothing open at a `..`, so brackets are not waited for.
      have hle := outer_length_le (fun c => isParen_of_mem_ungrouped) hu houter
      have hrel := h.atom _ hs₁ hu₁
      cases hrel with
      | inside => cases hle
      | outside hlevel => exact ih hkept.tail.tail hkeeps (.outside hlevel) hs hu
  | cons c rest hdots ih =>
      rw [scan_cons hdots] at hs
      obtain ⟨s₁, hs₁, hs⟩ := exists_of_foldlM_cons hs
      cases hc : isParen c with
      | true =>
          obtain ⟨level', hrel, hkeeps, hlevel, hb⟩ := h.step_paren hc hkeeps hs₁
          rw [hb, ← hlevel] at hs
          rw [ungrouped_cons_of_isParen hc, ← hlevel] at hu
          exact ih hkept.tail hkeeps hrel hs hu
      | false =>
          rw [ungrouped_cons hc, scan_cons (hkept.not_gap_ungrouped hdots)] at hu
          obtain ⟨u₁, hu₁, hu⟩ := exists_of_foldlM_cons hu
          have hle := outer_length_le (fun c => isParen_of_mem_ungrouped) hu houter
          obtain ⟨level', hrel, hkeeps, hlevel⟩ := h.step_char hc hkeeps hs₁ hu₁ hle
          rw [hlevel] at hs hu
          exact ih hkept.tail hkeeps hrel hs hu

/-- A pattern and the pattern without its parentheses begin alike. -/
lemma DotsKept.exists_pieces {text : List Char} (hkept : DotsKept text)
    (hkeeps : keepsBranches none text = true) :
    ∃ (first : List Atom) (rest : List Char),
      pieces text = first.map .atom ++ scan .trailingGap false rest ∧
      pieces (ungrouped text) = first.map .atom ++ scan .trailingGap false (ungrouped rest) ∧
      GapsKept rest ∧ keepsBranches none rest = true := by
  by_cases hlead : ['.', '.'] <+: text
  · obtain ⟨rest, rfl⟩ := hlead
    have hgaps : GapsKept ('.' :: '.' :: rest) := hkept.toGapsKept
    rw [List.cons_append, List.singleton_append, ungrouped_gap, pieces_gap, pieces_gap,
      hgaps.isEmpty_ungrouped]
    split_ifs with hempty
    · exact ⟨[.anything], [], rfl, rfl, ⟨by simp, by simp⟩, rfl⟩
    · exact ⟨[.leadingGap], rest, rfl, rfl, hgaps.tail.tail, hkeeps⟩
  · exact ⟨[], text, pieces_eq_scan hlead, pieces_eq_scan fun h => hlead (hkept.start h),
      hkept.toGapsKept, hkeeps⟩

lemma Related.run_atoms {as : List Atom} (h : Related level s u)
    (hs : (as.map Piece.atom).foldlM (OpenGroups.step Expr.reading) s = .ok s')
    (hu : (as.map Piece.atom).foldlM (OpenGroups.step Expr.reading) u = .ok u') :
    Related level s' u' := by
  induction as generalizing s u with
  | nil =>
      cases hs
      cases hu
      exact h
  | cons a as ih =>
      obtain ⟨s₁, hs₁, hs⟩ := exists_of_foldlM_cons hs
      obtain ⟨u₁, hu₁, hu⟩ := exists_of_foldlM_cons hu
      exact ih (h.atom a hs₁ hu₁) hs hu

/-- **With and without its parentheses, a pattern derives the same.** -/
theorem equivalent_ungrouped {text : List Char} (hkept : DotsKept text)
    (hkeeps : keepsBranches none text = true) {e e' : Expr} {n n' : ℕ}
    (h : assemble Expr.reading (wholePieces text) = .ok (e, n))
    (h' : assemble Expr.reading (wholePieces (ungrouped text)) = .ok (e', n')) :
    Expr.Equivalent e e' := by
  obtain ⟨first, rest, hpieces, hpieces', hgaps, hkeeps⟩ := hkept.exists_pieces hkeeps
  have hwhole : wholePieces text = ((.start :: first).map .atom) ++
      (scan .trailingGap false rest ++ [.finish].map .atom) := by
    simp [wholePieces, hpieces]
  have hwhole' : wholePieces (ungrouped text) = ((.start :: first).map .atom) ++
      (scan .trailingGap false (ungrouped rest) ++ [.finish].map .atom) := by
    simp [wholePieces, hpieces']
  obtain ⟨inner, hs, rfl⟩ := assemble_eq_ok.mp h
  obtain ⟨inner', hu, rfl⟩ := assemble_eq_ok.mp h'
  rw [hwhole] at hs
  rw [hwhole'] at hu
  obtain ⟨s₁, hs₁, hs⟩ := exists_of_foldlM_append hs
  obtain ⟨u₁, hu₁, hu⟩ := exists_of_foldlM_append hu
  obtain ⟨s₂, hs₂, hs⟩ := exists_of_foldlM_append hs
  obtain ⟨u₂, hu₂, hu⟩ := exists_of_foldlM_append hu
  have hstart : Related none ⟨⟨none, [], []⟩, [], 0⟩ ⟨⟨none, [], []⟩, [], 0⟩ :=
    .outside (.base rfl rfl .nil (Expr.AllEquivalent.refl []))
  have houter : u₂.outer = [] := by
    rcases u₂ with ⟨inner, outer, n⟩
    cases hu
    rfl
  have hend := ((hstart.run_atoms hs₁ hu₁).run hgaps hkeeps hs₂ hu₂ houter).run_atoms hs hu
  cases hend with
  | outside hlevel =>
      cases hlevel with
      | base hindex hindex' hbranches hitems => exact equivalent_body hbranches hitems
      | group h => cases h

/-! ## The number of groups -/

lemma groups_of_foldlM {α : Type} {r : Reading α} {s s' : OpenGroups α} {ps : List Piece}
    (h : ps.foldlM (OpenGroups.step r) s = .ok s') :
    s'.groups = s.groups + ps.count .openGroup := by
  induction ps generalizing s with
  | nil =>
      cases h
      rfl
  | cons p ps ih =>
      obtain ⟨s₁, hstep, hrest⟩ := exists_of_foldlM_cons h
      have hgroups : s₁.groups = s.groups + if p = .openGroup then 1 else 0 := by
        cases p with
        | close =>
            rcases s with ⟨inner, _ | ⟨around, outer⟩, groups⟩
            · cases hstep
            · cases hstep
              rfl
        | _ =>
            cases hstep
            rfl
      rw [ih hrest, hgroups, List.count_cons]
      simp only [beq_iff_eq]
      omega

lemma count_openGroup_scan (atEnd : Atom) (b : Bool) (t : List Char) :
    (scan atEnd b t).count .openGroup = t.count '(' := by
  induction t using gap_induction generalizing b with
  | nil => simp
  | gap rest ih => simp [scan_gap, ih]
  | cons c rest hdots ih =>
      have hpiece : charPiece b c = .openGroup ↔ c = '(' := by
        have hscanned := scanned b c
        generalize charPiece b c = piece, inBranchesAfter b c = b' at hscanned
        cases hscanned <;> simp_all
      rw [scan_cons hdots, List.count_cons, List.count_cons, ih]
      simp [hpiece]

lemma count_openGroup_pieces (text : List Char) :
    (pieces text).count .openGroup = text.count '(' := by
  by_cases hlead : ['.', '.'] <+: text
  · obtain ⟨rest, rfl⟩ := hlead
    rw [List.cons_append, List.singleton_append, pieces_gap]
    split_ifs with hempty
    · obtain rfl := List.isEmpty_iff.mp hempty
      rfl
    · simp [count_openGroup_scan]
  · rw [pieces_eq_scan hlead, count_openGroup_scan]

/-- **A pattern has as many groups as its text has opening parentheses.** -/
theorem groups_eq_count {text : String} {p : PackagePattern} (h : read text = .ok p) :
    p.groups = text.toList.count '(' := by
  obtain ⟨-, -, -, hassemble⟩ := read_eq_ok.mp h
  obtain ⟨inner, hrun, -⟩ := assemble_eq_ok.mp hassemble
  rw [← count_openGroup_pieces]
  simpa [wholePieces] using groups_of_foldlM hrun

/-! ## What matches -/

/-- **Groups do not change what matches, and each of them captures something.**  The first part is
about patterns whose parentheses stand neither between two dots nor between a `..` and an end of
the pattern, and whose branches close the groups that they open. -/
theorem selects_ungrouped {text : String} {p q : PackagePattern} (hp : parse text = .ok p)
    (hq : parse (String.ofList (ungrouped text.toList)) = .ok q) (name : String) :
    (DotsKept text.toList → keepsBranches none text.toList = true →
      p.selects name = q.selects name) ∧
    ((∃ captured, p.captures? name = some captured) ↔ p.selects name = true) ∧
    ∀ captured, p.captures? name = some captured → captured.length = text.toList.count '(' := by
  have hread := read_of_parse hp
  refine ⟨fun hkept hkeeps => ?_, ?_, ?_⟩
  · obtain ⟨-, -, -, hassemble⟩ := read_eq_ok.mp hread
    obtain ⟨-, -, -, hassemble'⟩ := read_eq_ok.mp (read_of_parse hq)
    rw [String.toList_ofList] at hassemble'
    have hequivalent := equivalent_ungrouped hkept hkeeps hassemble hassemble'
    rw [Bool.eq_iff_iff, selects_iff, selects_iff]
    exact exists_congr fun before => exists_congr fun part => exists_congr fun after =>
      and_congr_right fun _ => hequivalent before part after
  · rw [selects, Option.isSome_iff_exists]
  · rintro captured hcaptured
    obtain ⟨_, -, rfl⟩ := Option.map_eq_some_iff.mp hcaptured
    rw [List.length_map, List.length_range, groups_eq_count hread]

/-- Groups around brackets, between them and before a `..`. -/
theorem selects_ungrouped_nested :
    ∃ p q, parse "([a|(b)c]).(*).." = .ok p ∧ parse "[a|bc].*.." = .ok q ∧
      ∀ name, p.selects name = q.selects name := by
  have hparsed : ∀ text : String,
      (parse text).toOption.isSome = true → ∃ p, parse text = .ok p := by
    intro text h
    cases hparse : parse text with
    | error e => simp [hparse, Except.toOption] at h
    | ok p => exact ⟨p, rfl⟩
  obtain ⟨p, hp⟩ := hparsed "([a|(b)c]).(*).." (by decide +kernel)
  obtain ⟨q, hq⟩ := hparsed "[a|bc].*.." (by decide +kernel)
  have hkept : DotsKept "([a|(b)c]).(*)..".toList :=
    { between := by decide, finish := by decide, start := by decide }
  exact ⟨p, q, hp, hq, fun name => (selects_ungrouped hp hq name).1 hkept (by decide)⟩

/-- Parentheses that change what matches: around parts of two branches, between two dots, and
between the start and a `..`. -/
theorem selects_ungrouped_ne :
    ((parse "[(a|b)c]").toOption.map (·.selects "ac") = some true ∧
      (parse (String.ofList (ungrouped "[(a|b)c]".toList))).toOption.map (·.selects "ac") =
        some false) ∧
    ((parse "a.(.b)").toOption.map (·.selects "a.b") = some false ∧
      (parse (String.ofList (ungrouped "a.(.b)".toList))).toOption.map (·.selects "a.b") =
        some true) ∧
    ((parse "(..)a").toOption.map (·.selects "a") = some false ∧
      (parse (String.ofList (ungrouped "(..)a".toList))).toOption.map (·.selects "a") =
        some true) := by
  decide +kernel

end ClassAtlas.PackagePattern
