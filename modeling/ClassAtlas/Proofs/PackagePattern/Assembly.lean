import ClassAtlas.Proofs.PackagePattern.Derivations
import ClassAtlas.Proofs.PackagePattern.Scanning

/-!
# What pieces come to

Pieces are put together by a machine with a stack of open groups.  Whether it succeeds depends on
the pieces alone and not on what is made of them, so a pattern that can be read at all is parsed
unless it breaks a limit.

* `assemble_isOk` — every reading makes something of the same pieces.
* `IsPatternOf` — the pattern of a text, with what parsing the text can come to.
* `Yields` — pieces that close all groups they open, and the expressions they add.
* `exists_isPatternOf` — **a text with such pieces has a pattern, and a name matches if these
  expressions derive it, one behind the other**.
-/

namespace ClassAtlas.PackagePattern

open Text

/-! ## One machine for all readings -/

section Readings

variable {α β : Type} {r : Reading α} {s s' : OpenGroups α} {t : OpenGroups β} {p : Piece}
  {ps : List Piece}

lemma foldlM_cons_ok (h : s.step r p = .ok s') :
    (p :: ps).foldlM (OpenGroups.step r) s = ps.foldlM (OpenGroups.step r) s' := by
  rw [List.foldlM_cons, h]
  rfl

lemma foldlM_append_ok {qs : List Piece} (h : ps.foldlM (OpenGroups.step r) s = .ok s') :
    (ps ++ qs).foldlM (OpenGroups.step r) s = qs.foldlM (OpenGroups.step r) s' := by
  rw [List.foldlM_append, h]
  rfl

/-- A run over pieces is a run over the first of them and then one over the others. -/
lemma exists_of_foldlM_cons (h : (p :: ps).foldlM (OpenGroups.step r) s = .ok s') :
    ∃ s₁, s.step r p = .ok s₁ ∧ ps.foldlM (OpenGroups.step r) s₁ = .ok s' := by
  rw [List.foldlM_cons] at h
  rcases hstep : s.step r p with e | s₁
  · rw [hstep] at h
    cases h
  · rw [hstep] at h
    exact ⟨s₁, rfl, h⟩

lemma exists_of_foldlM_append {qs : List Piece}
    (h : (ps ++ qs).foldlM (OpenGroups.step r) s = .ok s') :
    ∃ s₁, ps.foldlM (OpenGroups.step r) s = .ok s₁ ∧ qs.foldlM (OpenGroups.step r) s₁ = .ok s' := by
  rw [List.foldlM_append] at h
  rcases hrun : ps.foldlM (OpenGroups.step r) s with e | s₁
  · rw [hrun] at h
    cases h
  · rw [hrun] at h
    exact ⟨s₁, rfl, h⟩

/-- The step: the number of open groups alone tells whether there is one and how many groups are
open then. -/
lemma exists_step_of_depth (hdepth : s.outer.length = t.outer.length) (h : s.step r p = .ok s')
    (r' : Reading β) :
    ∃ t', t.step r' p = .ok t' ∧ s'.outer.length = t'.outer.length := by
  cases p with
  | close =>
      rcases s with ⟨inner, _ | ⟨around, outer⟩, groups⟩
      · cases h
      · rcases t with ⟨inner', _ | ⟨around', outer'⟩, groups'⟩
        · cases hdepth
        · cases h
          exact ⟨_, rfl, by simpa using hdepth⟩
  | openGroup | openBranches =>
      cases h
      exact ⟨_, rfl, by simpa using hdepth⟩
  | atom _ | bar =>
      cases h
      exact ⟨_, rfl, hdepth⟩

lemma exists_run_of_depth (hdepth : s.outer.length = t.outer.length)
    (h : ps.foldlM (OpenGroups.step r) s = .ok s') (r' : Reading β) :
    ∃ t', ps.foldlM (OpenGroups.step r') t = .ok t' ∧ s'.outer.length = t'.outer.length := by
  induction ps generalizing s t with
  | nil =>
      cases h
      exact ⟨t, rfl, hdepth⟩
  | cons p ps ih =>
      obtain ⟨s₁, hstep, hrest⟩ := exists_of_foldlM_cons h
      obtain ⟨t₁, hstep', hdepth⟩ := exists_step_of_depth hdepth hstep r'
      obtain ⟨t', hrest', hdepth⟩ := ih hdepth hrest
      exact ⟨t', by rw [foldlM_cons_ok hstep', hrest'], hdepth⟩

/-- What a successful assembly went through. -/
lemma assemble_eq_ok {x : α} {n : ℕ} :
    assemble r ps = .ok (x, n) ↔
      ∃ inner, ps.foldlM (OpenGroups.step r) ⟨⟨none, [], []⟩, [], 0⟩ = .ok ⟨inner, [], n⟩ ∧
        x = inner.body r := by
  rw [assemble]
  rcases ps.foldlM (OpenGroups.step r) ⟨⟨none, [], []⟩, [], 0⟩ with e | ⟨inner, _ | ⟨g, outer⟩, m⟩
  · constructor
    · intro h
      cases h
    · rintro ⟨_, h, -⟩
      cases h
  · constructor
    · intro h
      cases h
      exact ⟨inner, rfl, rfl⟩
    · rintro ⟨_, h, rfl⟩
      cases h
      rfl
  · constructor
    · intro h
      cases h
    · rintro ⟨_, h, -⟩
      cases h

/-- **Every reading makes something of the same pieces.** -/
theorem assemble_isOk {x : α × ℕ} (h : assemble r ps = .ok x) (r' : Reading β) :
    ∃ y, assemble r' ps = .ok y := by
  obtain ⟨inner, hrun, -⟩ := assemble_eq_ok.mp h
  let start : OpenGroups β := ⟨⟨none, [], []⟩, [], 0⟩
  obtain ⟨⟨inner', outer, n⟩, hrun', hdepth⟩ := exists_run_of_depth (t := start) (by rfl) hrun r'
  obtain rfl : outer = [] := List.length_eq_zero_iff.mp hdepth.symm
  exact ⟨_, assemble_eq_ok.mpr ⟨inner', hrun', rfl⟩⟩

end Readings

/-! ## Reading and parsing -/

/-- The pattern of a text: reading the text gives it, and parsing gives it too unless it breaks a
limit. -/
structure IsPatternOf (p : PackagePattern) (text : String) : Prop where
  read_eq : read text = .ok p
  parse_eq : parse text = .ok p ∨ parse text = .error (.invalidPackagePattern text .tooDeep) ∨
    parse text = .error (.invalidPackagePattern text .tooLarge)

variable {p : PackagePattern} {text : String}

/-- What a text has to be so that it is read. -/
lemma read_eq_ok :
    read text = .ok p ↔ ¬ ['.', '.', '.'] <:+: text.toList ∧
      text.toList.count '(' = text.toList.count ')' ∧ p.text = text ∧
      assemble Expr.reading (wholePieces text.toList) = .ok (p.expr, p.groups) := by
  rw [read, ← occurs_iff]
  dsimp only
  split_ifs with hdots hcount
  · simp [hdots]
  · simp [hcount]
  · rcases assemble Expr.reading (wholePieces text.toList) with e | ⟨expr, groups⟩
    · simp [Except.map]
    · rcases p with ⟨text', expr', groups'⟩
      simp [Except.map, hdots, not_not.mp hcount, eq_comm]

/-- Two limits, whatever they are, can be broken in two ways. -/
lemma limits_cases {α : Type} (limit : ℕ) (within : α → Bool) (count : ℕ × ℕ) (shape : α × ℕ) :
    let outcome : Except PatternFault Unit := do
      let (count, _) ← Except.ok count
      if count > limit then throw .tooDeep
      let (shape, _) ← Except.ok shape
      if !within shape then throw .tooLarge
    outcome = .ok () ∨ outcome = .error .tooDeep ∨ outcome = .error .tooLarge := by
  simp only [bind, Except.bind, pure, Except.pure, throw, throwThe, MonadExceptOf.throw]
  by_cases hdeep : count.1 > limit
  · simp [hdeep]
  · cases hfits : within shape.1 <;> simp [hdeep]

/-- The limits that pieces can break if they can be put together. -/
lemma checkLimits_of_assemble {α : Type} {r : Reading α} {ps : List Piece} {x : α × ℕ}
    (h : assemble r ps = .ok x) :
    checkLimits ps = .ok () ∨ checkLimits ps = .error .tooDeep ∨
      checkLimits ps = .error .tooLarge := by
  obtain ⟨count, hlevels⟩ := assemble_isOk h levels
  obtain ⟨shape, hshape⟩ := assemble_isOk h Shape.reading
  rw [checkLimits, hlevels, hshape]
  exact limits_cases maxLevels (fits ps) count shape

/-- **A text that is read is parsed, unless it breaks a limit.** -/
theorem isPatternOf_of_read (h : read text = .ok p) : IsPatternOf p text := by
  refine ⟨h, ?_⟩
  obtain ⟨-, -, -, hassemble⟩ := read_eq_ok.mp h
  rw [parse, h]
  rcases checkLimits_of_assemble hassemble with hlimits | hlimits | hlimits
  · exact Or.inl (by rw [hlimits]; rfl)
  · exact Or.inr (Or.inl (by rw [hlimits]; rfl))
  · exact Or.inr (Or.inr (by rw [hlimits]; rfl))

lemma read_of_parse (h : parse text = .ok p) : read text = .ok p := by
  rcases hread : read text with e | q
  · rw [parse, hread] at h
    cases h
  · rcases (isPatternOf_of_read hread).parse_eq with hparse | hparse | hparse
    all_goals
      rw [h] at hparse
      cases hparse
    rfl

/-- What a pattern selects can be told by reading its text. -/
lemma IsPatternOf.selects_eq (hp : IsPatternOf p text) {name : String} {answer : Bool}
    (h : (read text).toOption.map (·.selects name) = some answer) : p.selects name = answer := by
  rw [hp.read_eq] at h
  exact Option.some_inj.mp h

lemma IsPatternOf.unique {q : PackagePattern} (hp : IsPatternOf p text) (hq : IsPatternOf q text) :
    p = q :=
  Except.ok.inj (hp.read_eq.symm.trans hq.read_eq)

/-! ## Pieces that close what they open -/

/-- The current branch continued by several items. -/
def OpenGroup.pushAll {α : Type} (g : OpenGroup α) (items : List α) : OpenGroup α :=
  { g with items := items.reverse ++ g.items }

@[simp]
lemma OpenGroup.pushAll_pushAll {α : Type} (g : OpenGroup α) (items others : List α) :
    (g.pushAll items).pushAll others = g.pushAll (items ++ others) := by
  simp [pushAll]

/-- The innermost group continued by several items. -/
def OpenGroups.pushAll {α : Type} (s : OpenGroups α) (items : List α) : OpenGroups α :=
  { s with inner := s.inner.pushAll items }

/-- Pieces that add expressions to the innermost group, whichever groups are open. -/
def Yields (ps : List Piece) (es : List Expr) : Prop :=
  ∀ s, ps.foldlM (OpenGroups.step Expr.reading) s = .ok (s.pushAll es)

variable {ps qs : List Piece} {es fs : List Expr}

lemma yields_nil : Yields [] [] :=
  fun _ => rfl

lemma yields_atom (a : Atom) : Yields [.atom a] [a.expr] :=
  fun _ => rfl

lemma Yields.append (h : Yields ps es) (h' : Yields qs fs) : Yields (ps ++ qs) (es ++ fs) := by
  intro s
  rw [foldlM_append_ok (h s), h']
  simp [OpenGroups.pushAll]

lemma Yields.cons_atom (h : Yields ps es) (a : Atom) : Yields (.atom a :: ps) (a.expr :: es) :=
  (yields_atom a).append h

lemma body_eq_ofBranches (g : OpenGroup Expr) :
    g.body Expr.reading = Expr.ofBranches (g.divide Expr.reading).branches.reverse := by
  rw [OpenGroup.body]
  split
  · rename_i h
    rw [h]
    rfl
  · rfl

/-- Branches with bars between them, from the start of a group on: each is kept as one sequence. -/
lemma foldlM_branches {branches : List (List Piece)} {items : List (List Expr)}
    (h : List.Forall₂ Yields branches items) (hne : branches ≠ []) (g : OpenGroup Expr)
    (hg : g.items = []) (outer : List (OpenGroup Expr)) (n : ℕ) :
    ∃ g', ([Piece.bar].intercalate branches).foldlM (OpenGroups.step Expr.reading) ⟨g, outer, n⟩ =
        .ok ⟨g', outer, n⟩ ∧ g'.index = g.index ∧
      (g'.divide Expr.reading).branches =
        (items.map Expr.reading.sequence).reverse ++ g.branches := by
  induction h generalizing g with
  | nil => exact absurd rfl hne
  | @cons branch es branches items hbranch hrest ih =>
      cases hrest with
      | nil =>
          refine ⟨(OpenGroups.pushAll ⟨g, outer, n⟩ es).inner, ?_, rfl, ?_⟩
          · rw [List.intercalate_singleton, hbranch]
            rfl
          · simp [OpenGroups.pushAll, OpenGroup.pushAll, OpenGroup.divide, hg]
      | @cons branch' es' branches items hbranch' hrest =>
          set g₁ : OpenGroup Expr :=
            ((OpenGroups.pushAll ⟨g, outer, n⟩ es).inner.divide Expr.reading) with hg₁
          obtain ⟨g', hrun, hindex, hbranches⟩ := ih (by simp) g₁ rfl
          refine ⟨g', ?_, hindex, ?_⟩
          · rw [List.intercalate_cons_cons, List.append_assoc, foldlM_append_ok (hbranch _),
              List.singleton_append, foldlM_cons_ok rfl]
            exact hrun
          · rw [hbranches, hg₁]
            simp [OpenGroups.pushAll, OpenGroup.pushAll, OpenGroup.divide, hg]

/-- **A group of branches adds the choice between them.** -/
lemma yields_branches {branches : List (List Piece)} {items : List (List Expr)}
    (h : List.Forall₂ Yields branches items) (hne : branches ≠ []) :
    Yields (.openBranches :: [Piece.bar].intercalate branches ++ [.close])
      [Expr.ofBranches (items.map Expr.reading.sequence)] := by
  intro s
  obtain ⟨g, hrun, hindex, hbranches⟩ :=
    foldlM_branches h hne ⟨none, [], []⟩ rfl (s.inner :: s.outer) s.groups
  rw [List.cons_append, foldlM_cons_ok rfl, foldlM_append_ok hrun, foldlM_cons_ok rfl]
  have hbody : g.body Expr.reading = Expr.ofBranches (items.map Expr.reading.sequence) := by
    rw [body_eq_ofBranches, hbranches]
    simp
  rw [hindex, hbody]
  rfl

/-- **The pattern of a text whose pieces close what they open.**  A name matches it if the
expressions of the pieces derive the name, one behind the other. -/
theorem exists_isPatternOf (hdots : ¬ ['.', '.', '.'] <:+: text.toList)
    (hcount : text.toList.count '(' = text.toList.count ')') (h : Yields (pieces text.toList) es) :
    ∃ p, IsPatternOf p text ∧
      ∀ name : String, p.selects name = true ↔ Expr.DerivesAll es [] name.toList [] := by
  have hwhole : Yields (wholePieces text.toList) (.start :: es ++ [.finish]) :=
    (h.append (yields_atom .finish)).cons_atom .start
  have hassemble : assemble Expr.reading (wholePieces text.toList) =
      .ok (Expr.reading.sequence (.start :: es ++ [.finish]), 0) := by
    refine assemble_eq_ok.mpr ⟨_, hwhole _, ?_⟩
    simp [OpenGroup.pushAll, OpenGroup.body, OpenGroup.divide]
  refine ⟨⟨text, _, 0⟩, isPatternOf_of_read (read_eq_ok.mpr ⟨hdots, hcount, rfl, hassemble⟩),
    fun name => ?_⟩
  rw [selects_iff]
  simp only [Expr.derives_sequence, Expr.derivesAll_whole]
  constructor
  · rintro ⟨before, part, after, hname, rfl, rfl, h⟩
    simpa [hname] using h
  · intro h
    exact ⟨[], name.toList, [], by simp, rfl, rfl, h⟩

end ClassAtlas.PackagePattern
