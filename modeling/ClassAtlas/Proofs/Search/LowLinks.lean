import ClassAtlas.Proofs.Search.Reachability
import ClassAtlas.Search.Components

/-!
# The pass that finds components

While the pass is under way, some vertices are being worked on: they form a path from where the pass
started.  All of them are on the stack, together with vertices that are done but get back to one of
them.  This is what the pass keeps up, and what makes the vertices above the first one of a
component the others of it.

* `Together` — two vertices reach each other, which is an equivalence.
* `LowLinks.Consistent` — the maps of the state, its stack and its components fit together.
* `LowLinks.Inv` — **the invariant of the stack**: the vertices of the path reach what is above
  them, and what is on the stack gets back to the path.
* `LowLinks.Extends` — what a part of the pass leaves as it is.
* `LowLinks.Row` — some edges of a vertex were followed, and its low link accounts for them.
* `LowLinks.Connected` — what the pass from a vertex does.
* `Row.leave` — a vertex is done; `connected_connect` — **the pass from a vertex keeps the
  invariant**.
-/

namespace ClassAtlas.Search

variable {α : Type}

/-! ## Vertices that reach each other -/

/-- Whether two vertices reach each other. -/
def Together (next : α → List α) (v w : α) : Prop :=
  Reaches next v w ∧ Reaches next w v

section

variable {next : α → List α} {u v w : α}

lemma Together.symm (h : Together next v w) : Together next w v := ⟨h.2, h.1⟩

lemma Together.trans (h : Together next u v) (h' : Together next v w) : Together next u w :=
  ⟨Relation.ReflTransGen.trans h.1 h'.1, Relation.ReflTransGen.trans h'.2 h.2⟩

end

namespace LowLinks

variable [DecidableEq α] [Hashable α] {s t u : LowLinks α} {v w x : α} {path : List α}

/-! ## The steps -/

/-- The vertices that the pass has come to. -/
def met (s : LowLinks α) : List α :=
  s.stack ++ s.result.flatten

lemma mem_met : v ∈ s.met ↔ v ∈ s.stack ∨ v ∈ s.result.flatten :=
  List.mem_append

@[simp] lemma met_enter : (s.enter v).met = v :: s.met := rfl

lemma mem_index_enter : w ∈ (s.enter v).index ↔ w = v ∨ w ∈ s.index := by
  rw [enter, Std.HashMap.mem_insert, beq_iff_eq, eq_comm]

lemma number_enter (s : LowLinks α) (v w : α) :
    (s.enter v).number w = if v = w then s.counter else s.number w := by
  simp [number, enter, Std.HashMap.getD_insert]

lemma low_enter (s : LowLinks α) (v w : α) :
    (s.enter v).low w = if v = w then s.counter else s.low w := by
  simp [low, enter, Std.HashMap.getD_insert]

lemma waits_enter (s : LowLinks α) (v w : α) :
    (s.enter v).waits w = if v = w then true else s.waits w := by
  simp [waits, enter, Std.HashMap.getD_insert]

/-- Nothing but the low link of a vertex is lowered. -/
lemma lower_eq (s : LowLinks α) (v : α) (n : ℕ) :
    s.lower v n = { s with lowlink := (s.lower v n).lowlink } := by
  rw [lower]
  split_ifs <;> rfl

@[simp] lemma stack_lower (n : ℕ) : (s.lower v n).stack = s.stack := by rw [lower_eq]

@[simp] lemma met_lower (n : ℕ) : (s.lower v n).met = s.met := by rw [lower_eq]; rfl

@[simp] lemma number_lower (n : ℕ) : (s.lower v n).number w = s.number w := by rw [lower_eq]; rfl

lemma low_lower_self (s : LowLinks α) (v : α) (n : ℕ) :
    (s.lower v n).low v = min (s.low v) n := by
  rw [lower]
  split_ifs with h
  · rw [min_eq_right h.le, low, Std.HashMap.getD_insert_self]
  · rw [min_eq_left (not_lt.mp h)]

lemma low_lower_of_ne (s : LowLinks α) {v w : α} (n : ℕ) (h : w ≠ v) :
    (s.lower v n).low w = s.low w := by
  rw [lower]
  split_ifs
  · simp [low, Std.HashMap.getD_insert, h.symm]
  · rfl

/-- The vertices above `v` and `v` itself are taken off the stack. -/
lemma unwind_append (rest : List α) : ∀ (new component : List α) (s : LowLinks α), v ∉ new →
    ∃ marks, s.unwind v component (new ++ v :: rest) =
        { s with
          stack := rest
          onStack := marks
          result := (component ++ new ++ [v]) :: s.result } ∧
      ∀ w, marks.getD w false = if w ∈ new ++ [v] then false else s.waits w
  | [], component, s, _ => by
      refine ⟨s.onStack.insert v false, ?_, fun w => ?_⟩
      · simp [unwind]
      · by_cases hwv : w = v
        · simp [hwv]
        · simp [hwv, waits, Std.HashMap.getD_insert, Ne.symm hwv]
  | x :: new, component, s, hv => by
      rw [List.mem_cons, not_or] at hv
      obtain ⟨marks, heq, hmarks⟩ := unwind_append rest new (component ++ [x])
        { s with onStack := s.onStack.insert x false } hv.2
      refine ⟨marks, ?_, fun w => ?_⟩
      · rw [List.cons_append, unwind, if_neg (Ne.symm hv.1), heq]
        simp
      · rw [hmarks w]
        by_cases hwx : w = x
        · simp [hwx, waits]
        · simp [hwx, waits, Std.HashMap.getD_insert, Ne.symm hwx]

/-! ## The invariant -/

/-- The maps of the state, its stack and its components fit together: the vertices that the pass has
come to are numbered, and on the stack the numbers descend. -/
structure Consistent (s : LowLinks α) : Prop where
  mem_index : ∀ v, v ∈ s.index ↔ v ∈ s.met
  waits_iff : ∀ v, s.waits v = true ↔ v ∈ s.stack
  number_lt : ∀ v ∈ s.met, s.number v < s.counter
  nodup : s.met.Nodup
  descending : s.stack.Pairwise fun v w => s.number w < s.number v

/-- The invariant while the vertices of `path` are being worked on, in a graph on `vertices`. -/
structure Inv (vertices : List α) (next : α → List α) (path : List α) (s : LowLinks α) : Prop
    extends Consistent s where
  within : s.met ⊆ vertices
  path_subset : path ⊆ s.stack
  /-- All edges of a vertex that is done were followed. -/
  closed : ∀ v ∈ s.met, v ∉ path → ∀ w ∈ next v, w ∈ s.met
  /-- No edge leads out of the components that are known. -/
  settled : ∀ v ∈ s.result.flatten, ∀ w ∈ next v, w ∈ s.result.flatten
  component : ∀ c ∈ s.result, ∀ v ∈ c, ∀ w, w ∈ c ↔ Together next v w
  /-- A vertex that is being worked on reaches what is above it. -/
  above : ∀ v ∈ path, ∀ w ∈ s.stack, s.number v ≤ s.number w → Reaches next v w
  /-- What is on the stack gets back to a vertex that is being worked on. -/
  returns : ∀ v ∈ s.stack, ∃ w ∈ path, s.number w ≤ s.number v ∧ Reaches next v w

variable {vertices : List α} {next : α → List α}

lemma Consistent.not_mem_stack (h : Consistent s) (hv : v ∈ s.result.flatten) : v ∉ s.stack :=
  fun hstack => (List.nodup_append.mp h.nodup).2.2 v hstack v hv rfl

/-- The invariant does not speak about low links. -/
lemma Inv.lower (h : Inv vertices next path s) (v : α) (n : ℕ) :
    Inv vertices next path (s.lower v n) := by
  rw [lower_eq]
  exact ⟨⟨h.mem_index, h.waits_iff, h.number_lt, h.nodup, h.descending⟩, h.within, h.path_subset,
    h.closed, h.settled, h.component, h.above, h.returns⟩

/-- No edge leads out of the components that are known, so no path does. -/
lemma Inv.mem_flatten_of_reaches (h : Inv vertices next path s) (hv : v ∈ s.result.flatten)
    (hvw : Reaches next v w) : w ∈ s.result.flatten :=
  hvw.mem_of_closed h.settled hv

/-- If no vertex is being worked on, then no vertex waits. -/
lemma Inv.stack_eq_nil (h : Inv vertices next [] s) : s.stack = [] := by
  refine List.eq_nil_iff_forall_not_mem.mpr fun v hv => ?_
  obtain ⟨w, hw, -⟩ := h.returns v hv
  cases hw

/-- What a part of the pass leaves as it is: the stack below, and the numbers and low links of the
vertices that were there. -/
structure Extends (s t : LowLinks α) : Prop where
  counter : s.counter ≤ t.counter
  stack : s.stack <:+ t.stack
  result : s.result.flatten ⊆ t.result.flatten
  number : ∀ v ∈ s.met, t.number v = s.number v
  low : ∀ v ∈ s.met, t.low v = s.low v
  number_ge : ∀ v ∈ t.met, v ∉ s.met → s.counter ≤ t.number v

lemma Extends.met (h : Extends s t) : s.met ⊆ t.met := fun _ hv =>
  mem_met.mpr ((mem_met.mp hv).imp (fun hv => h.stack.subset hv) fun hv => h.result hv)

lemma Extends.trans (h : Extends s t) (h' : Extends t u) : Extends s u where
  counter := h.counter.trans h'.counter
  stack := h.stack.trans h'.stack
  result := List.Subset.trans h.result h'.result
  number v hv := (h'.number v (h.met hv)).trans (h.number v hv)
  low v hv := (h'.low v (h.met hv)).trans (h.low v hv)
  number_ge v hv hnew := by
    by_cases hmid : v ∈ t.met
    · rw [h'.number v hmid]
      exact h.number_ge v hmid hnew
    · exact h.counter.trans (h'.number_ge v hv hmid)

/-- Low links of new vertices may be lowered. -/
lemma Extends.lower (h : Extends s t) (hv : v ∉ s.met) (n : ℕ) : Extends s (t.lower v n) := by
  have hlow : ∀ w ∈ s.met, (t.lower v n).low w = s.low w := fun w hw =>
    (low_lower_of_ne t n (ne_of_mem_of_not_mem hw hv)).trans (h.low w hw)
  rw [lower_eq] at hlow ⊢
  exact ⟨h.counter, h.stack, h.result, h.number, hlow, h.number_ge⟩

/-- What was there before and is on the stack was on the stack. -/
lemma Extends.mem_stack (h : Extends s t) (ht : Consistent t) (hv : v ∈ s.met)
    (hstack : v ∈ t.stack) : v ∈ s.stack :=
  (mem_met.mp hv).resolve_right fun hdone => ht.not_mem_stack (h.result hdone) hstack

lemma extends_enter (hv : v ∉ s.met) : Extends s (s.enter v) where
  counter := Nat.le_succ _
  stack := List.suffix_cons _ _
  result := List.Subset.refl _
  number w hw := by rw [number_enter, if_neg (ne_of_mem_of_not_mem hw hv).symm]
  low w hw := by rw [low_enter, if_neg (ne_of_mem_of_not_mem hw hv).symm]
  number_ge w hw hnew := by
    obtain rfl : w = v := (List.mem_cons.mp hw).resolve_right hnew
    rw [number_enter, if_pos rfl]

/-- **Coming to a new vertex keeps the invariant.**  It is put on top, and the vertices that are
being worked on reach it. -/
lemma Inv.enter (h : Inv vertices next path s) (hvertex : v ∈ vertices) (hv : v ∉ s.met)
    (hreach : ∀ x ∈ path, Reaches next x v) : Inv vertices next (v :: path) (s.enter v) := by
  have hself : (s.enter v).number v = s.counter := by rw [number_enter, if_pos rfl]
  have hold : ∀ w ∈ s.met, (s.enter v).number w = s.number w :=
    (extends_enter hv).number
  have hstack : ∀ w ∈ s.stack, w ∈ s.met := fun w hw => mem_met.mpr (Or.inl hw)
  refine ⟨⟨fun w => ?_, fun w => ?_, fun w hw => ?_, ?_, ?_⟩, ?_, ?_, fun w hw hpath => ?_,
    h.settled, h.component, fun x hx w hw hle => ?_, fun w hw => ?_⟩
  · rw [mem_index_enter, h.mem_index, met_enter, List.mem_cons]
  · rw [waits_enter]
    split_ifs with heq
    · exact iff_of_true rfl (heq ▸ List.mem_cons_self ..)
    · rw [h.waits_iff]
      exact ⟨List.mem_cons_of_mem _, fun hw => (List.mem_cons.mp hw).resolve_left (Ne.symm heq)⟩
  · rcases List.mem_cons.mp hw with rfl | hw
    · rw [hself]
      exact Nat.lt_succ_self _
    · rw [hold w hw]
      exact (h.number_lt w hw).trans (Nat.lt_succ_self _)
  · exact List.nodup_cons.mpr ⟨hv, h.nodup⟩
  · refine List.pairwise_cons.mpr ⟨fun w hw => ?_, ?_⟩
    · rw [hself, hold w (hstack w hw)]
      exact h.number_lt w (hstack w hw)
    · refine h.descending.imp_of_mem fun {x y} hx hy hlt => ?_
      rwa [hold x (hstack x hx), hold y (hstack y hy)]
  · exact List.cons_subset.mpr ⟨hvertex, h.within⟩
  · exact List.cons_subset_cons _ h.path_subset
  · rw [List.mem_cons, not_or] at hpath
    have hw := (List.mem_cons.mp hw).resolve_left hpath.1
    exact fun y hy => List.mem_cons_of_mem _ (h.closed w hw hpath.2 y hy)
  · rcases List.mem_cons.mp hx with rfl | hx
    · rcases List.mem_cons.mp hw with rfl | hw
      · exact .refl
      · rw [hself, hold w (hstack w hw)] at hle
        exact absurd (h.number_lt w (hstack w hw)) (not_lt.mpr hle)
    · rcases List.mem_cons.mp hw with hw | hw
      · exact hw ▸ hreach x hx
      · rw [hold x (hstack x (h.path_subset hx)), hold w (hstack w hw)] at hle
        exact h.above x hx w hw hle
  · rcases List.mem_cons.mp hw with rfl | hw
    · exact ⟨w, List.mem_cons_self .., le_rfl, .refl⟩
    · obtain ⟨x, hx, hle, hwx⟩ := h.returns w hw
      refine ⟨x, List.mem_cons_of_mem _ hx, ?_, hwx⟩
      rwa [hold x (hstack x (h.path_subset hx)), hold w (hstack w hw)]

/-! ## Following edges -/

/-- What the pass from the new vertex `v` does: the vertex is numbered, and if its low link is less
than its number, then it gets back there.  Of what stays on the stack, no edge leads below the low
link. -/
structure Connected (vertices : List α) (next : α → List α) (path : List α) (s : LowLinks α) (v : α)
    (t : LowLinks α) : Prop where
  inv : Inv vertices next path t
  frame : Extends s t
  mem : v ∈ t.met
  number : t.number v = s.counter
  low_le : t.low v ≤ s.counter
  anchored : t.low v < s.counter → ∃ w ∈ t.stack, t.number w = t.low v ∧ Reaches next v w
  covers : ∀ x ∈ t.stack, x ∉ s.stack → ∀ y ∈ next x, y ∈ t.stack → t.low v ≤ t.number y

/-- The state after the edges from `v` to `seen` were followed, if the pass came to `v` in the state
`s`. -/
structure Row (vertices : List α) (next : α → List α) (path : List α) (s : LowLinks α) (v : α)
    (seen : List α) (t : LowLinks α) : Prop where
  inv : Inv vertices next (v :: path) t
  frame : Extends s t
  stack : v :: s.stack <:+ t.stack
  number : t.number v = s.counter
  low_le : t.low v ≤ s.counter
  anchored : ∃ w ∈ t.stack, t.number w = t.low v ∧ Reaches next v w
  seen_met : ∀ y ∈ seen, y ∈ t.met
  seen_covers : ∀ y ∈ seen, y ∈ t.stack → t.low v ≤ t.number y
  covers : ∀ x ∈ t.stack, x ∉ s.stack → x ≠ v → ∀ y ∈ next x, y ∈ t.stack → t.low v ≤ t.number y

namespace Row

variable {seen top : List α}

lemma mem_stack (h : Row vertices next path s v seen t) : v ∈ t.stack :=
  h.inv.path_subset (List.mem_cons_self ..)

lemma mem_met (h : Row vertices next path s v seen t) : v ∈ t.met :=
  LowLinks.mem_met.mpr (Or.inl h.mem_stack)

/-- No edge was followed yet. -/
lemma enter (hs : Inv vertices next path s) (hvertex : v ∈ vertices) (hv : v ∉ s.met)
    (hreach : ∀ x ∈ path, Reaches next x v) : Row vertices next path s v [] (s.enter v) where
  inv := hs.enter hvertex hv hreach
  frame := extends_enter hv
  stack := List.suffix_refl _
  number := by rw [number_enter, if_pos rfl]
  low_le := by rw [low_enter, if_pos rfl]
  anchored := ⟨v, List.mem_cons_self .., by simp [number_enter, low_enter], .refl⟩
  seen_met _ hy := by cases hy
  seen_covers _ hy := by cases hy
  covers x hx hold hne := absurd ((List.mem_cons.mp hx).resolve_left hne) hold

/-- The vertices that are being worked on reach every successor of the last one. -/
lemma reaches (h : Row vertices next path s v seen t) (hs : Inv vertices next path s)
    (hw : w ∈ next v) : ∀ x ∈ v :: path, Reaches next x w := by
  intro x hx
  rcases List.mem_cons.mp hx with rfl | hpath
  · exact .single hw
  · have hmet : x ∈ s.met := LowLinks.mem_met.mpr (Or.inl (hs.path_subset hpath))
    refine (h.inv.above x hx v h.mem_stack ?_).tail hw
    rw [h.frame.number x hmet, h.number]
    exact (hs.number_lt x hmet).le

/-- A vertex that the pass added, other than `v`, is done. -/
lemma not_mem_path (hs : Inv vertices next path s) (hold : x ∉ s.stack) (hne : x ≠ v) :
    x ∉ v :: path := by
  rw [List.mem_cons, not_or]
  exact ⟨hne, fun hpath => hold (hs.path_subset hpath)⟩

/-- An edge leads back to a vertex that waits. -/
lemma back (h : Row vertices next path s v seen t) (hv : v ∉ s.met) (hw : w ∈ next v)
    (hstack : w ∈ t.stack) : Row vertices next path s v (seen ++ [w]) (t.lower v (t.number w)) where
  inv := h.inv.lower v _
  frame := h.frame.lower hv _
  stack := by
    rw [stack_lower]
    exact h.stack
  number := by
    rw [number_lower]
    exact h.number
  low_le := by
    rw [low_lower_self]
    exact (min_le_left _ _).trans h.low_le
  anchored := by
    obtain ⟨x, hx, hnumber, hvx⟩ := h.anchored
    simp only [stack_lower, number_lower, low_lower_self]
    rcases le_total (t.low v) (t.number w) with hle | hle
    · exact ⟨x, hx, by rw [min_eq_left hle, hnumber], hvx⟩
    · exact ⟨w, hstack, by rw [min_eq_right hle], .single hw⟩
  seen_met y hy := by
    rw [met_lower]
    rcases List.mem_append.mp hy with hy | hy
    · exact h.seen_met y hy
    · exact List.mem_singleton.mp hy ▸ LowLinks.mem_met.mpr (Or.inl hstack)
  seen_covers y hy hwaits := by
    rw [stack_lower] at hwaits
    rw [low_lower_self, number_lower]
    rcases List.mem_append.mp hy with hy | hy
    · exact (min_le_left _ _).trans (h.seen_covers y hy hwaits)
    · rw [List.mem_singleton.mp hy]
      exact min_le_right _ _
  covers x hx hold hne y hy hwaits := by
    rw [stack_lower] at hx hwaits
    rw [low_lower_self, number_lower]
    exact (min_le_left _ _).trans (h.covers x hx hold hne y hy hwaits)

/-- An edge leads to a vertex of a component that is known. -/
lemma across (h : Row vertices next path s v seen t) (hmet : w ∈ t.met) (hstack : w ∉ t.stack) :
    Row vertices next path s v (seen ++ [w]) t where
  inv := h.inv
  frame := h.frame
  stack := h.stack
  number := h.number
  low_le := h.low_le
  anchored := h.anchored
  seen_met y hy := by
    rcases List.mem_append.mp hy with hy | hy
    · exact h.seen_met y hy
    · exact List.mem_singleton.mp hy ▸ hmet
  seen_covers y hy hwaits := by
    rcases List.mem_append.mp hy with hy | hy
    · exact h.seen_covers y hy hwaits
    · exact absurd (List.mem_singleton.mp hy ▸ hwaits) hstack
  covers := h.covers

/-- An edge leads to a new vertex, and the pass from there has been made.  The edges that leave the
vertices which were there before lead to vertices that were there as well. -/
lemma tree (h : Row vertices next path s v seen t) (hs : Inv vertices next path s) (hv : v ∉ s.met)
    (hw : w ∈ next v) (hconnected : Connected vertices next (v :: path) t w u) :
    Row vertices next path s v (seen ++ [w]) (u.lower v (u.low w)) := by
  have hlow : u.low v = t.low v := hconnected.frame.low v h.mem_met
  have hnumber : u.number v = s.counter := (hconnected.frame.number v h.mem_met).trans h.number
  have hcounter : s.counter < t.counter := h.number ▸ h.inv.number_lt v h.mem_met
  have hsame : ∀ y ∈ t.met, y ∈ u.stack → y ∈ t.stack := fun y =>
    hconnected.frame.mem_stack hconnected.inv.toConsistent
  have hwaiting : ∀ y ∈ t.stack, u.number y = t.number y := fun y hy =>
    hconnected.frame.number y (LowLinks.mem_met.mpr (Or.inl hy))
  refine ⟨hconnected.inv.lower v _, (h.frame.trans hconnected.frame).lower hv _, ?_, ?_, ?_, ?_,
    fun y hy => ?_, fun y hy hstack => ?_, fun x hx hold hne y hy hstack => ?_⟩
  · rw [stack_lower]
    exact h.stack.trans hconnected.frame.stack
  · rw [number_lower, hnumber]
  · rw [low_lower_self, hlow]
    exact (min_le_left _ _).trans h.low_le
  · simp only [stack_lower, number_lower, low_lower_self, hlow]
    rcases le_or_gt (t.low v) (u.low w) with hle | hlt
    · obtain ⟨x, hx, heq, hvx⟩ := h.anchored
      refine ⟨x, hconnected.frame.stack.subset hx, ?_, hvx⟩
      rw [min_eq_left hle, hwaiting x hx, heq]
    · obtain ⟨x, hx, heq, hwx⟩ := hconnected.anchored ((hlt.trans_le h.low_le).trans hcounter)
      exact ⟨x, hx, by rw [min_eq_right hlt.le, heq], .head hw hwx⟩
  · rw [met_lower]
    rcases List.mem_append.mp hy with hy | hy
    · exact hconnected.frame.met (h.seen_met y hy)
    · exact List.mem_singleton.mp hy ▸ hconnected.mem
  · rw [stack_lower] at hstack
    rw [low_lower_self, number_lower, hlow]
    rcases List.mem_append.mp hy with hy | hy
    · have hy' := hsame y (h.seen_met y hy) hstack
      rw [hwaiting y hy']
      exact (min_le_left _ _).trans (h.seen_covers y hy hy')
    · rw [List.mem_singleton.mp hy, hconnected.number]
      exact (min_le_right _ _).trans hconnected.low_le
  · rw [stack_lower] at hx hstack
    rw [low_lower_self, number_lower, hlow]
    by_cases hxt : x ∈ t.stack
    · have hxmet : x ∈ t.met := LowLinks.mem_met.mpr (Or.inl hxt)
      have hy' := hsame y (h.inv.closed x hxmet (not_mem_path hs hold hne) y hy) hstack
      rw [hwaiting y hy']
      exact (min_le_left _ _).trans (h.covers x hxt hold hne y hy hy')
    · exact (min_le_right _ _).trans (hconnected.covers x hx hxt y hy hstack)

/-- **Following an edge**, whatever it leads to, if the pass from new vertices does what it should.
-/
lemma follow (h : Row vertices next path s v seen t) (hs : Inv vertices next path s)
    (hv : v ∉ s.met) (hw : w ∈ next v) {visit : LowLinks α → α → LowLinks α}
    (hvisit : w ∉ t.met → Connected vertices next (v :: path) t w (visit t w)) :
    Row vertices next path s v (seen ++ [w]) (LowLinks.follow visit v t w) := by
  have hindex := h.inv.mem_index w
  by_cases hmet : w ∈ t.met
  · rw [LowLinks.follow, if_neg (not_not.mpr (hindex.mpr hmet))]
    split_ifs with hwaits
    · exact h.back hv hw ((h.inv.waits_iff w).mp hwaits)
    · exact h.across hmet (mt (h.inv.waits_iff w).mpr hwaits)
  · rw [LowLinks.follow, if_pos (mt hindex.mp hmet)]
    exact h.tree hs hv hw (hvisit hmet)

/-! ## Leaving a vertex -/

/-- All edges of the vertex were followed, so it is done like those that are not on the path. -/
lemma closed (h : Row vertices next path s v (next v) t) (hx : x ∈ t.met) (hpath : x ∉ path)
    (hw : w ∈ next x) : w ∈ t.met := by
  by_cases hxv : x = v
  · exact h.seen_met w (hxv ▸ hw)
  · exact h.inv.closed x hx (List.mem_cons.not.mpr (not_or.mpr ⟨hxv, hpath⟩)) w hw

/-- No edge of what was added leads below the low link of the vertex. -/
lemma low_le_number (h : Row vertices next path s v (next v) t) (hx : x ∈ t.stack)
    (hold : x ∉ s.stack) (hw : w ∈ next x) (hwaits : w ∈ t.stack) : t.low v ≤ t.number w := by
  by_cases hxv : x = v
  · exact h.seen_covers w (hxv ▸ hw) hwaits
  · exact h.covers x hx hold hxv w hw hwaits

/-- The vertex gets back behind its number, so it stays on the stack. -/
lemma keep (h : Row vertices next path s v (next v) t) (hlow : t.low v ≠ t.number v) :
    Connected vertices next path s v t := by
  have hlt : t.low v < t.number v := lt_of_le_of_ne (h.low_le.trans h.number.ge) hlow
  refine ⟨⟨h.inv.toConsistent, h.inv.within, ?_, fun x hx hpath w => h.closed hx hpath,
    h.inv.settled, h.inv.component, ?_, fun x hx => ?_⟩, h.frame, h.mem_met, h.number, h.low_le,
    fun _ => h.anchored, fun x hx hold y => h.low_le_number hx hold⟩
  · exact fun x hx => h.inv.path_subset (List.mem_cons_of_mem _ hx)
  · exact fun x hx => h.inv.above x (List.mem_cons_of_mem _ hx)
  · -- what gets back to `v` gets further back with it
    obtain ⟨g, hg, hle, hxg⟩ := h.inv.returns x hx
    rcases List.mem_cons.mp hg with rfl | hg
    · obtain ⟨z, hz, hnumber, hgz⟩ := h.anchored
      obtain ⟨g', hg', hle', hzg'⟩ := h.inv.returns z hz
      have hless : t.number g' < t.number g := (hle'.trans hnumber.le).trans_lt hlt
      have hne : g' ≠ g := fun heq => hless.ne (congrArg t.number heq)
      exact ⟨g', (List.mem_cons.mp hg').resolve_left hne, hless.le.trans hle,
        (hxg.trans hgz).trans hzg'⟩
    · exact ⟨g, hg, hle, hxg⟩

/-- The vertices on top of the stack are those that were added. -/
lemma mem_top (h : Row vertices next path s v seen t) (htop : t.stack = top ++ s.stack) :
    x ∈ top ↔ x ∈ t.stack ∧ x ∉ s.stack := by
  have hnodup : (top ++ s.stack).Nodup := htop ▸ (List.nodup_append.mp h.inv.nodup).1
  have hdisjoint := List.disjoint_of_nodup_append hnodup
  rw [htop, List.mem_append]
  exact ⟨fun hx => ⟨Or.inl hx, fun hold => hdisjoint hx hold⟩, fun hx => hx.1.resolve_right hx.2⟩

/-- If the vertex does not get back behind its number, then the edges of what is on top lead to what
is on top and to components that are known. -/
lemma edge_top (h : Row vertices next path s v (next v) t)
    (hs : Inv vertices next path s) (htop : t.stack = top ++ s.stack)
    (hlow : t.low v = t.number v) (hx : x ∈ top) (hw : w ∈ next x) :
    w ∈ top ∨ w ∈ t.result.flatten := by
  obtain ⟨hstack, hold⟩ := (h.mem_top htop).mp hx
  have hmet : w ∈ t.met := h.closed (LowLinks.mem_met.mpr (Or.inl hstack))
    (fun hpath => hold (hs.path_subset hpath)) hw
  refine (LowLinks.mem_met.mp hmet).imp (fun hwaits => (h.mem_top htop).mpr ⟨hwaits, ?_⟩) id
  -- below there are smaller numbers only
  intro hbelow
  have hbelow' : w ∈ s.met := LowLinks.mem_met.mpr (Or.inl hbelow)
  have hcovers := h.low_le_number hstack hold hw hwaits
  rw [hlow, h.number, h.frame.number w hbelow'] at hcovers
  exact absurd (hs.number_lt w hbelow') (not_lt.mpr hcovers)

/-- So do the paths from what is on top. -/
lemma path_top (h : Row vertices next path s v (next v) t)
    (hs : Inv vertices next path s) (htop : t.stack = top ++ s.stack)
    (hlow : t.low v = t.number v) (hx : x ∈ top) (hw : Reaches next x w) :
    w ∈ top ∨ w ∈ t.result.flatten := by
  rw [← List.mem_append]
  refine hw.mem_of_closed (fun y hy z hz => ?_) (List.mem_append_left _ hx)
  rw [List.mem_append]
  rcases List.mem_append.mp hy with hy | hy
  · exact h.edge_top hs htop hlow hy hz
  · exact Or.inr (h.inv.settled y hy z hz)

/-- **What is on top is a component**, if the vertex does not get back behind its number. -/
lemma component_top (h : Row vertices next path s v (next v) t)
    (hs : Inv vertices next path s) (htop : t.stack = top ++ s.stack)
    (hlow : t.low v = t.number v) (hx : x ∈ top) (w : α) :
    w ∈ top ↔ Together next x w := by
  -- all of them get back to a vertex that is being worked on, and that can only be `v`
  have htogether : ∀ y ∈ top, Together next v y := by
    intro y hy
    obtain ⟨hstack, hold⟩ := (h.mem_top htop).mp hy
    obtain ⟨g, hg, -, hyg⟩ := h.inv.returns y hstack
    have hgv : g = v := by
      refine (List.mem_cons.mp hg).resolve_right fun hpath => ?_
      have hbelow := hs.path_subset hpath
      rcases h.path_top hs htop hlow hy hyg with hgtop | hdone
      · exact ((h.mem_top htop).mp hgtop).2 hbelow
      · exact h.inv.not_mem_stack hdone (h.frame.stack.subset hbelow)
    refine ⟨h.inv.above v (List.mem_cons_self ..) y hstack ?_, hgv ▸ hyg⟩
    have hnew : y ∉ s.met := fun hmet =>
      hold (h.frame.mem_stack h.inv.toConsistent hmet hstack)
    rw [h.number]
    exact h.frame.number_ge y (LowLinks.mem_met.mpr (Or.inl hstack)) hnew
  constructor
  · exact fun hw => (htogether x hx).symm.trans (htogether w hw)
  · rintro ⟨hxw, hwx⟩
    refine (h.path_top hs htop hlow hx hxw).resolve_right fun hdone => ?_
    exact h.inv.not_mem_stack (h.inv.mem_flatten_of_reaches hdone hwx)
      ((h.mem_top htop).mp hx).1

/-- The state once the vertices on top have become a component. -/
def popped (t : LowLinks α) (top rest : List α) (marks : Std.HashMap α Bool) : LowLinks α :=
  { t with stack := rest, onStack := marks, result := top :: t.result }

/-- The vertices that the pass has come to are the same. -/
lemma perm_met_popped (htop : t.stack = top ++ s.stack) (marks : Std.HashMap α Bool) :
    (popped t top s.stack marks).met.Perm t.met := by
  change (s.stack ++ (top ++ t.result.flatten)).Perm (t.stack ++ t.result.flatten)
  rw [htop, ← List.append_assoc]
  exact List.perm_append_comm.append_right _

lemma consistent_popped (h : Row vertices next path s v seen t) (htop : t.stack = top ++ s.stack)
    {marks : Std.HashMap α Bool}
    (hmarks : ∀ w, marks.getD w false = if w ∈ top then false else t.waits w) :
    (popped t top s.stack marks).Consistent where
  mem_index w := (h.inv.mem_index w).trans (perm_met_popped htop marks).mem_iff.symm
  waits_iff w := by
    change marks.getD w false = true ↔ w ∈ s.stack
    rw [hmarks]
    split_ifs with hw
    · simp [((h.mem_top htop).mp hw).2]
    · rw [h.inv.waits_iff]
      refine ⟨fun hstack => not_not.mp fun hold => ?_, fun hw => h.frame.stack.subset hw⟩
      exact hw ((h.mem_top htop).mpr ⟨hstack, hold⟩)
  number_lt w hw := h.inv.number_lt w ((perm_met_popped htop marks).mem_iff.mp hw)
  nodup := (perm_met_popped htop marks).nodup_iff.mpr h.inv.nodup
  descending := h.inv.descending.sublist h.frame.stack.sublist

/-- The invariant holds again without the vertex: what was below it is as it was before. -/
lemma inv_popped (h : Row vertices next path s v (next v) t) (hs : Inv vertices next path s)
    (htop : t.stack = top ++ s.stack) (hlow : t.low v = t.number v)
    {marks : Std.HashMap α Bool}
    (hmarks : ∀ w, marks.getD w false = if w ∈ top then false else t.waits w) :
    Inv vertices next path (popped t top s.stack marks) where
  toConsistent := h.consistent_popped htop hmarks
  within w hw := h.inv.within ((perm_met_popped htop marks).mem_iff.mp hw)
  path_subset := hs.path_subset
  closed x hx hpath w hw := by
    rw [(perm_met_popped htop marks).mem_iff] at hx ⊢
    exact h.closed hx hpath hw
  settled x hx w hw := by
    refine List.mem_append.mpr ?_
    rcases List.mem_append.mp hx with hx | hx
    · exact h.edge_top hs htop hlow hx hw
    · exact Or.inr (h.inv.settled x hx w hw)
  component c hc x hx w := by
    rcases List.mem_cons.mp hc with rfl | hc
    · exact h.component_top hs htop hlow hx w
    · exact h.inv.component c hc x hx w
  above x hx w hw := h.inv.above x (List.mem_cons_of_mem _ hx) w (h.frame.stack.subset hw)
  returns x hx := by
    obtain ⟨g, hg, hle, hxg⟩ := hs.returns x hx
    refine ⟨g, hg, ?_, hxg⟩
    change t.number g ≤ t.number x
    rwa [h.frame.number g (LowLinks.mem_met.mpr (Or.inl (hs.path_subset hg))),
      h.frame.number x (LowLinks.mem_met.mpr (Or.inl hx))]

/-- The vertex does not get back behind its number, so its component is known. -/
lemma pop (h : Row vertices next path s v (next v) t) (hs : Inv vertices next path s)
    (hlow : t.low v = t.number v) : Connected vertices next path s v (t.unwind v [] t.stack) := by
  obtain ⟨top, htop⟩ := h.stack
  have hnotin : v ∉ top := by
    have hnodup := (List.nodup_append.mp h.inv.nodup).1
    rw [← htop] at hnodup
    exact fun hmem => (List.nodup_append.mp hnodup).2.2 v hmem v (List.mem_cons_self ..) rfl
  obtain ⟨marks, heq, hmarks⟩ := unwind_append s.stack top [] t hnotin
  rw [htop, List.nil_append] at heq
  rw [heq]
  rw [List.append_cons] at htop
  generalize top ++ [v] = top at htop hmarks
  have hperm := perm_met_popped htop.symm marks
  refine ⟨h.inv_popped hs htop.symm hlow hmarks, ⟨h.frame.counter, List.suffix_refl _, ?_,
    h.frame.number, h.frame.low, fun w hw => ?_⟩, hperm.mem_iff.mpr h.mem_met, h.number, h.low_le,
    fun hlt => ?_, fun x hx hold => absurd hx hold⟩
  · exact fun w hw => List.mem_append_right _ (h.frame.result hw)
  · exact h.frame.number_ge w (hperm.mem_iff.mp hw)
  · exact absurd hlt (not_lt.mpr (h.number ▸ hlow.ge))

/-- **Leaving a vertex keeps the invariant**, once all its edges were followed. -/
lemma leave (h : Row vertices next path s v (next v) t) (hs : Inv vertices next path s) :
    Connected vertices next path s v (t.leave v) := by
  rw [LowLinks.leave]
  split_ifs with hlow
  · exact h.pop hs hlow
  · exact h.keep hlow

end Row

/-! ## The pass -/

/-- The edges of a vertex are followed one after the other. -/
lemma Row.foldl {visit : LowLinks α → α → LowLinks α} (hs : Inv vertices next path s)
    (hv : v ∉ s.met)
    (hvisit : ∀ t w, w ∈ next v → w ∉ t.met → Inv vertices next (v :: path) t →
      (∀ x ∈ v :: path, Reaches next x w) → v :: s.met ⊆ t.met →
      Connected vertices next (v :: path) t w (visit t w)) :
    ∀ (rest seen : List α) (t : LowLinks α), rest ⊆ next v → Row vertices next path s v seen t →
      Row vertices next path s v (seen ++ rest) (rest.foldl (LowLinks.follow visit v) t)
  | [], seen, t, _, h => by
      rw [List.append_nil]
      exact h
  | w :: rest, seen, t, hsub, h => by
      obtain ⟨hw, hsub⟩ := List.cons_subset.mp hsub
      have hstep := h.follow hs hv hw fun hnew => hvisit t w hw hnew h.inv (h.reaches hs hw)
        (List.cons_subset.mpr ⟨h.mem_met, h.frame.met⟩)
      rw [List.foldl_cons, ← List.singleton_append, ← List.append_assoc]
      exact Row.foldl hs hv hvisit rest _ _ hsub hstep

/-- **The pass from a new vertex keeps the invariant**, if there is room for all vertices that it
has not come to. -/
theorem connected_connect (hstay : ∀ v, next v ⊆ vertices) :
    ∀ (length : ℕ) (path : List α) (s : LowLinks α) (v : α), Inv vertices next path s →
      v ∈ vertices → v ∉ s.met → (∀ x ∈ path, Reaches next x v) →
      Room vertices.toFinset (length + 1) s.met →
      Connected vertices next path s v (connect next length s v)
  | 0, path, s, v, hs, hvertex, hv, hreach, hroom =>
      absurd (hroom.cons (List.mem_toFinset.mpr hvertex) hv) (Nat.not_lt_zero _)
  | length + 1, path, s, v, hs, hvertex, hv, hreach, hroom => by
      have hroom' := hroom.cons (List.mem_toFinset.mpr hvertex) hv
      have hrow : Row vertices next path s v (next v)
          ((next v).foldl (LowLinks.follow (connect next length) v) (s.enter v)) := by
        refine Row.foldl hs hv (fun t w hw hnew ht hreach' hsub => ?_) (next v) [] _
          (List.Subset.refl _) (.enter hs hvertex hv hreach)
        exact connected_connect hstay length _ t w ht (hstay v hw) hnew hreach' (hroom'.mono hsub)
      exact hrow.leave hs

end LowLinks

end ClassAtlas.Search
