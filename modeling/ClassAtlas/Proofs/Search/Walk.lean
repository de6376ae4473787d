import ClassAtlas.Proofs.Search.Reachability
import ClassAtlas.Search.Walk

/-!
# What a walk collects

A walk keeps three things in step: the edges that it has met, the vertices that it has marked, and
the marked vertices that still wait to be looked at.  What is marked can be reached, and the edges
of what is marked were met unless it waits; so when nothing waits any more, exactly the edges of the
vertices that can be reached were met.

* `Walk.Reached` — what was met and marked belongs to vertices that can be reached.
* `Walk.Inv` — moreover the edges of what is marked were met, unless it waits.
* `Walk.Fits` — there are enough steps for what waits and for what may still be marked.
* `Walk.Inv.pop` — looking at a vertex keeps the invariant; `Walk.Inv.run` — so does a walk.
* `mem_edgesFrom` — **a walk collects the edges of the vertices that can be reached**.
-/

namespace ClassAtlas.Search

variable {α ε : Type}

/-- The vertices that the edges of a vertex lead to. -/
def successors (edges : α → List ε) (lead : ε → α) (v : α) : List α :=
  (edges v).map lead

namespace Walk

variable [DecidableEq α] [Hashable α] {edges : α → List ε} {lead : ε → α} {start v : α} {e : ε}
  {w : Walk α ε} {seen : List ε}

/-! ## Meeting an edge -/

@[simp] lemma result_meet : (w.meet lead e).result = e :: w.result := by
  rw [meet]
  split_ifs <;> rfl

lemma meet_of_mem (h : lead e ∈ w.visited.vertices) :
    w.meet lead e = { w with result := e :: w.result } :=
  if_pos ((w.visited.mem_set _).mpr h)

lemma meet_of_not_mem (h : lead e ∉ w.visited.vertices) :
    w.meet lead e = ⟨e :: w.result, w.visited.push (lead e), lead e :: w.stack⟩ :=
  if_neg (fun hm => h ((w.visited.mem_set _).mp hm))

lemma mem_visited_meet : v ∈ (w.meet lead e).visited.vertices ↔
    v = lead e ∨ v ∈ w.visited.vertices := by
  by_cases h : lead e ∈ w.visited.vertices
  · rw [meet_of_mem h]
    exact ⟨Or.inr, fun hv => hv.elim (fun heq => heq ▸ h) id⟩
  · rw [meet_of_not_mem h]
    exact List.mem_cons

lemma mem_stack_meet : v ∈ (w.meet lead e).stack ↔
    v ∈ w.stack ∨ v = lead e ∧ lead e ∉ w.visited.vertices := by
  by_cases h : lead e ∈ w.visited.vertices
  · simp [meet_of_mem h, h]
  · simp [meet_of_not_mem h, h, or_comm]

/-! ## The invariant -/

/-- What was met and marked on a walk from `start`. -/
structure Reached (edges : α → List ε) (lead : ε → α) (start : α) (w : Walk α ε) : Prop where
  start_mem : start ∈ w.visited.vertices
  stack_subset : w.stack ⊆ w.visited.vertices
  visited : ∀ v ∈ w.visited.vertices, Reaches (successors edges lead) start v
  result : ∀ e ∈ w.result, ∃ v, Reaches (successors edges lead) start v ∧ e ∈ edges v

/-- The edges of a vertex were met, and what they lead to is marked. -/
def Done (edges : α → List ε) (lead : ε → α) (w : Walk α ε) (v : α) : Prop :=
  ∀ e ∈ edges v, e ∈ w.result ∧ lead e ∈ w.visited.vertices

/-- The invariant of a walk: what is marked waits or is done. -/
structure Inv (edges : α → List ε) (lead : ε → α) (start : α) (w : Walk α ε) : Prop
    extends Reached edges lead start w where
  done : ∀ v ∈ w.visited.vertices, v ∈ w.stack ∨ Done edges lead w v

/-- The walk looks at `v` and has met the edges `seen` of it. -/
structure Looking (edges : α → List ε) (lead : ε → α) (start v : α) (seen : List ε)
    (w : Walk α ε) : Prop extends Reached edges lead start w where
  mem : v ∈ w.visited.vertices
  seen_met : ∀ e ∈ seen, e ∈ w.result ∧ lead e ∈ w.visited.vertices
  done : ∀ u ∈ w.visited.vertices, u = v ∨ u ∈ w.stack ∨ Done edges lead w u

lemma inv_start (edges : α → List ε) (lead : ε → α) (start : α) :
    Inv edges lead start (Walk.start start) where
  start_mem := List.mem_singleton_self _
  stack_subset := List.Subset.refl _
  visited v hv := by
    rw [List.mem_singleton.mp hv]
    exact .refl
  result e he := by cases he
  done v hv := Or.inl hv

lemma Reached.meet (h : Reached edges lead start w) (hv : v ∈ w.visited.vertices)
    (he : e ∈ edges v) : Reached edges lead start (w.meet lead e) where
  start_mem := mem_visited_meet.mpr (Or.inr h.start_mem)
  stack_subset u hu := by
    rcases mem_stack_meet.mp hu with hu | ⟨rfl, -⟩
    · exact mem_visited_meet.mpr (Or.inr (h.stack_subset hu))
    · exact mem_visited_meet.mpr (Or.inl rfl)
  visited u hu := by
    rcases mem_visited_meet.mp hu with rfl | hu
    · exact (h.visited v hv).tail (List.mem_map_of_mem he)
    · exact h.visited u hu
  result f hf := by
    rw [result_meet, List.mem_cons] at hf
    rcases hf with rfl | hf
    · exact ⟨v, h.visited v hv, he⟩
    · exact h.result f hf

lemma Done.meet (h : Done edges lead w v) : Done edges lead (w.meet lead e) v := by
  intro f hf
  rw [result_meet]
  exact ⟨List.mem_cons_of_mem _ (h f hf).1, mem_visited_meet.mpr (Or.inr (h f hf).2)⟩

/-- One more edge is met. -/
lemma Looking.meet (h : Looking edges lead start v seen w) (he : e ∈ edges v) :
    Looking edges lead start v (seen ++ [e]) (w.meet lead e) where
  toReached := h.toReached.meet h.mem he
  mem := mem_visited_meet.mpr (Or.inr h.mem)
  seen_met f hf := by
    rw [result_meet, List.mem_cons, mem_visited_meet]
    rcases List.mem_append.mp hf with hf | hf
    · exact ⟨Or.inr (h.seen_met f hf).1, Or.inr (h.seen_met f hf).2⟩
    · rw [List.mem_singleton.mp hf]
      exact ⟨Or.inl rfl, Or.inl rfl⟩
  done u hu := by
    by_cases hold : u ∈ w.visited.vertices
    · rcases h.done u hold with heq | hstack | hdone
      · exact Or.inl heq
      · exact Or.inr (Or.inl (mem_stack_meet.mpr (Or.inl hstack)))
      · exact Or.inr (Or.inr hdone.meet)
    · have heq := (mem_visited_meet.mp hu).resolve_right hold
      exact Or.inr (Or.inl (mem_stack_meet.mpr (Or.inr ⟨heq, heq ▸ hold⟩)))

lemma Looking.foldl : ∀ (rest seen : List ε) (w : Walk α ε), rest ⊆ edges v →
    Looking edges lead start v seen w →
    Looking edges lead start v (seen ++ rest) (rest.foldl (Walk.meet lead) w)
  | [], seen, w, _, h => by
      rw [List.append_nil]
      exact h
  | e :: rest, seen, w, hsub, h => by
      obtain ⟨he, hsub⟩ := List.cons_subset.mp hsub
      rw [List.foldl_cons, ← List.singleton_append, ← List.append_assoc]
      exact Looking.foldl rest _ _ hsub (h.meet he)

/-- **Looking at a vertex keeps the invariant.** -/
lemma Inv.pop (h : Inv edges lead start w) {rest : List α} (hstack : w.stack = v :: rest) :
    Inv edges lead start ((edges v).foldl (Walk.meet lead) { w with stack := rest }) := by
  have hsub := h.stack_subset
  rw [hstack, List.cons_subset] at hsub
  have hlooking : Looking edges lead start v [] { w with stack := rest } := by
    refine ⟨⟨h.start_mem, hsub.2, h.visited, h.result⟩, hsub.1, ?_, fun u hu => ?_⟩
    · intro e he
      cases he
    rcases h.done u hu with hwaits | hdone
    · rw [hstack, List.mem_cons] at hwaits
      exact hwaits.imp id Or.inl
    · exact Or.inr (Or.inr hdone)
  have hall := Looking.foldl (edges v) [] _ (List.Subset.refl _) hlooking
  rw [List.nil_append] at hall
  refine ⟨hall.toReached, fun u hu => ?_⟩
  rcases hall.done u hu with rfl | hrest
  · exact Or.inr hall.seen_met
  · exact hrest

/-! ## Enough steps -/

/-- There are enough steps for the vertices that wait and for those that may still be marked. -/
def Fits (vertices : Finset α) (steps : ℕ) (w : Walk α ε) : Prop :=
  ∃ n, Room vertices (n + 1) w.visited.vertices ∧ n + w.stack.length ≤ steps

variable {vertices : Finset α} {steps : ℕ}

lemma fits_start (hstart : start ∈ vertices) (hcard : vertices.card ≤ steps) :
    Fits vertices steps (Walk.start start : Walk α ε) := by
  have hroom := (room_nil le_rfl).cons hstart List.not_mem_nil
  obtain ⟨n, hn⟩ := Nat.exists_eq_succ_of_ne_zero (Finset.card_ne_zero_of_mem hstart)
  rw [hn] at hroom hcard
  exact ⟨n, hroom, hcard⟩

/-- A vertex that is marked waits, and may not be marked again. -/
lemma Fits.meet (h : Fits vertices steps w) (he : lead e ∈ vertices) :
    Fits vertices steps (w.meet lead e) := by
  by_cases hold : lead e ∈ w.visited.vertices
  · rw [meet_of_mem hold]
    exact h
  · obtain ⟨n, hroom, hle⟩ := h
    have hroom := hroom.cons he hold
    obtain ⟨m, rfl⟩ := Nat.exists_eq_succ_of_ne_zero (Nat.ne_zero_of_lt hroom)
    rw [meet_of_not_mem hold]
    refine ⟨m, hroom, ?_⟩
    rw [List.length_cons]
    omega

lemma Fits.foldl : ∀ (es : List ε) (w : Walk α ε), (∀ e ∈ es, lead e ∈ vertices) →
    Fits vertices steps w → Fits vertices steps (es.foldl (Walk.meet lead) w)
  | [], _, _, h => h
  | _ :: es, _, hes, h =>
      Fits.foldl es _ (fun f hf => hes f (List.mem_cons_of_mem _ hf))
        (h.meet (hes _ (List.mem_cons_self ..)))

omit [DecidableEq α] [Hashable α] in
/-- A walk stays among vertices that hold what their edges lead to. -/
lemma mem_of_reaches (hstart : start ∈ vertices)
    (hstay : ∀ v ∈ vertices, ∀ e ∈ edges v, lead e ∈ vertices)
    (h : Reaches (successors edges lead) start v) : v ∈ vertices := by
  induction h with
  | refl => exact hstart
  | tail _ hstep ih =>
      obtain ⟨e, he, rfl⟩ := List.mem_map.mp hstep
      exact hstay _ ih e he

/-- **A walk keeps the invariant and ends**: nothing waits any more, if it stays among `vertices`
and there are enough steps. -/
lemma Inv.run (hstart : start ∈ vertices)
    (hstay : ∀ v ∈ vertices, ∀ e ∈ edges v, lead e ∈ vertices) :
    ∀ (steps : ℕ) (w : Walk α ε), Inv edges lead start w → Fits vertices steps w →
      Inv edges lead start (w.run edges lead steps) ∧ (w.run edges lead steps).stack = []
  | 0, w, h, hfits => by
      obtain ⟨n, -, hle⟩ := hfits
      exact ⟨h, List.length_eq_zero_iff.mp (Nat.le_zero.mp ((Nat.le_add_left _ _).trans hle))⟩
  | steps + 1, w, h, hfits => by
      rw [Walk.run]
      split
      · next hstack => exact ⟨h, hstack⟩
      · next v rest hstack =>
          have hv := h.stack_subset (hstack ▸ List.mem_cons_self ..)
          have hv := mem_of_reaches hstart hstay (h.visited v hv)
          refine Inv.run hstart hstay steps _ (h.pop hstack) (Fits.foldl _ _ (hstay v hv) ?_)
          obtain ⟨n, hroom, hle⟩ := hfits
          rw [hstack, List.length_cons] at hle
          exact ⟨n, hroom, Nat.le_of_succ_le_succ hle⟩

end Walk

/-- **A walk collects the edges of the vertices that can be reached**, if it stays among `vertices`,
of which there are not more than it may look at. -/
theorem mem_edgesFrom [DecidableEq α] [Hashable α] {edges : α → List ε} {lead : ε → α} {start : α}
    {vertices : Finset α} {bound : ℕ} (hstart : start ∈ vertices)
    (hstay : ∀ v ∈ vertices, ∀ e ∈ edges v, lead e ∈ vertices) (hcard : vertices.card ≤ bound + 1)
    {e : ε} : e ∈ edgesFrom edges lead bound start ↔
      ∃ v, Reaches (successors edges lead) start v ∧ e ∈ edges v := by
  obtain ⟨hinv, hstack⟩ := Walk.Inv.run hstart hstay _ _ (Walk.inv_start edges lead start)
    (Walk.fits_start hstart hcard)
  have hdone := hinv.done
  rw [hstack] at hdone
  rw [edgesFrom, List.mem_reverse]
  refine ⟨hinv.result e, ?_⟩
  rintro ⟨v, hv, he⟩
  have hmarked := hv.mem_of_closed (fun u hu x hx => ?_) hinv.start_mem
  · exact (((hdone v hmarked).resolve_left List.not_mem_nil) e he).1
  · obtain ⟨f, hf, rfl⟩ := List.mem_map.mp hx
    exact (((hdone u hu).resolve_left List.not_mem_nil) f hf).2

end ClassAtlas.Search
