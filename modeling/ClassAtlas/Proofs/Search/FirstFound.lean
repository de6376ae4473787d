import ClassAtlas.Proofs.Search.Reachability

/-!
# The first vertex that answers

Looking for an answer the plain way means to ask a vertex, and if it has none to look from each of
its successors in turn.  Where no way leads back, the first answer in the order of a depth-first
search is the same, although the search passes over every vertex that it meets again.

* `PlainLook` — an answer for every vertex, found the plain way.
* `PlainLook.eq_none_of_reaches` — where nothing is found, nothing is found further on.
* `PlainLook.findSome?_depthFirst` — **one search with a shared set of vertices finds the same**.

A vertex is passed over only if it was looked at before.  Had an answer been found from it, the
search would not have gone on, so what was looked at before and can be reached has no answer.
-/

namespace ClassAtlas.Search

variable {α β : Type} [DecidableEq α] [Hashable α] {next : α → List α} {ask look : α → Option β}

/-- What `look` finds from a vertex is its own answer, or else what is found from the first
successor from which anything is found. -/
def PlainLook (next : α → List α) (ask look : α → Option β) : Prop :=
  ∀ v, look v = (ask v <|> (next v).findSome? look)

omit [DecidableEq α] [Hashable α] in
lemma PlainLook.eq_none_iff (h : PlainLook next ask look) (v : α) :
    look v = none ↔ ask v = none ∧ ∀ w ∈ next v, look w = none := by
  rw [h v, Option.orElse_eq_none, List.findSome?_eq_none_iff]

omit [DecidableEq α] [Hashable α] in
lemma PlainLook.eq_none_of_reaches (h : PlainLook next ask look) {v w : α}
    (hreaches : Reaches next v w) (hv : look v = none) : look w = none := by
  induction hreaches with
  | refl => exact hv
  | tail _ hstep ih => exact ((h.eq_none_iff _).mp ih).2 _ hstep

/-- A row of visits only adds vertices, in front of those found before. -/
lemma suffix_foldl_visit (next : α → List α) (n : ℕ) (vs : List α) (found : Found α) :
    found.vertices <:+ (vs.foldl (visit next n) found).vertices :=
  foldl_visit_induction next n (fun f => found.vertices <:+ f.vertices) vs found
    (List.suffix_refl _) fun f hf v _ => hf.trans (suffix_visit next n f v)

/-- The first answer among what a visit adds is the one found the plain way, as long as there is
none to be found from what was found before and can be reached. -/
lemma PlainLook.findSome?_visit (h : PlainLook next ask look)
    (hback : ∀ v, ∀ w ∈ next v, ¬ Reaches next w v) {live : Finset α}
    (hlive : ∀ v, next v ≠ [] → v ∈ live) :
    ∀ (n : ℕ) (found : Found α) (v : α), Room live n found.vertices →
      (∀ w ∈ found.vertices, Reaches next v w → look w = none) →
      ∃ new, (visit next n found v).vertices = new ++ found.vertices ∧
        new.reverse.findSome? ask = look v
  | 0, _, _, hroom, _ => absurd hroom (Nat.not_lt_zero _)
  | n + 1, found, v, hroom, hfound => by
      by_cases hv : v ∈ found.vertices
      · refine ⟨[], by rw [visit_of_mem next _ hv, List.nil_append], ?_⟩
        rw [hfound v hv .refl]
        rfl
      -- the row of visits to the successors, which goes on as it is once there is an answer
      have row : ∀ (ws : List α) (f : Found α), (ws ≠ [] → Room live n f.vertices) →
          (∀ w ∈ ws, ∀ x ∈ f.vertices, Reaches next w x → look x = none) →
          ∃ new, (ws.foldl (visit next n) f).vertices = new ++ f.vertices ∧
            new.reverse.findSome? ask = ws.findSome? look := by
        intro ws
        induction ws with
        | nil => exact fun f _ _ => ⟨[], rfl, rfl⟩
        | cons y ys ih =>
            intro f hf hold
            have hroom := hf (by simp)
            obtain ⟨new, hnew, hfirst⟩ := h.findSome?_visit hback hlive n f y hroom
              fun x hx hreaches => hold y (List.mem_cons_self ..) x hx hreaches
            rcases hy : look y with _ | b
            · obtain ⟨rest, hrest, hothers⟩ := ih (visit next n f y)
                (fun _ => hroom.mono (suffix_visit next n f y).subset) fun w hw x hx hreaches => by
                  rcases reaches_of_mem_visit next n f y x hx with hx | hyx
                  · exact hold w (List.mem_cons_of_mem _ hw) x hx hreaches
                  · exact h.eq_none_of_reaches hyx hy
              refine ⟨rest ++ new, by rw [List.foldl_cons, hrest, hnew, List.append_assoc], ?_⟩
              rw [List.reverse_append, List.findSome?_append, hfirst, hothers,
                List.findSome?_cons_of_isNone (by rw [hy]; rfl), hy, Option.none_or]
            · obtain ⟨rest, hrest⟩ := suffix_foldl_visit next n ys (visit next n f y)
              refine ⟨rest ++ new, by rw [List.foldl_cons, ← hrest, hnew, List.append_assoc], ?_⟩
              rw [List.reverse_append, List.findSome?_append, hfirst,
                List.findSome?_cons_of_isSome (by rw [hy]; rfl), hy, Option.some_or]
      obtain ⟨new, hnew, hfirst⟩ := row (next v) (found.push v)
        (fun hne => hroom.cons (hlive v hne) hv) fun w hw x hx hreaches => by
          rcases List.mem_cons.mp hx with rfl | hx
          · exact absurd hreaches (hback x w hw)
          · exact hfound x hx (.head hw hreaches)
      refine ⟨new ++ [v], ?_, ?_⟩
      · rw [visit_of_not_mem next n hv, hnew, Found.vertices_push, List.append_assoc]
        rfl
      · rw [List.reverse_append, List.findSome?_append, hfirst, h v]
        simp

/-- **The first answer in the order of the search is the one found the plain way**, if no way leads
back to a vertex. -/
theorem PlainLook.findSome?_depthFirst (h : PlainLook next ask look)
    (hback : ∀ v, ∀ w ∈ next v, ¬ Reaches next w v) {live : Finset α}
    (hlive : ∀ v, next v ≠ [] → v ∈ live) {bound : ℕ} (hbound : live.card ≤ bound) (start : α) :
    (depthFirst next bound start).findSome? ask = look start := by
  obtain ⟨new, hnew, hfirst⟩ := h.findSome?_visit hback hlive (bound + 1) Found.empty start
    (room_nil hbound) (by simp)
  rw [← hfirst, depthFirst, Found.toList, explore, hnew, Found.vertices_empty, List.append_nil]

end ClassAtlas.Search
