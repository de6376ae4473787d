import ClassAtlas.Proofs.Search.Reachability

/-!
# Searching along a chain

Where a vertex has one successor at most and no way leads back, searching lists the vertex and then
what is found from its successor.

* `vertices_visit_append` — what cannot be reached makes no difference to a search.
* `depthFirst_of_nil`, `depthFirst_of_single` — the two ends of a chain.
-/

namespace ClassAtlas.Search

variable {α : Type} [DecidableEq α] [Hashable α] {next : α → List α}

/-- Vertices found before that cannot be reached make no difference. -/
lemma vertices_visit_append (base : List α) :
    ∀ (n : ℕ) (f g : Found α) (v : α), f.vertices = g.vertices ++ base →
      (∀ w ∈ base, ¬ Reaches next v w) →
      (visit next n f v).vertices = (visit next n g v).vertices ++ base
  | 0, _, _, _, h, _ => h
  | n + 1, f, g, v, h, hbase => by
      by_cases hv : v ∈ g.vertices
      · have hf : v ∈ f.vertices := h ▸ List.mem_append_left _ hv
        rw [visit_of_mem next _ hv, visit_of_mem next _ hf, h]
      · have hf : v ∉ f.vertices := by
          rw [h, List.mem_append, not_or]
          exact ⟨hv, fun hmem => hbase v hmem .refl⟩
        rw [visit_of_not_mem next n hv, visit_of_not_mem next n hf]
        have hloop : ∀ (vs : List α) (f g : Found α), vs ⊆ next v →
            f.vertices = g.vertices ++ base → (vs.foldl (visit next n) f).vertices =
              (vs.foldl (visit next n) g).vertices ++ base := by
          intro vs
          induction vs with
          | nil => exact fun f g _ h => h
          | cons w vs ih =>
              intro f g hsub h
              obtain ⟨hw, hvs⟩ := List.cons_subset.mp hsub
              refine ih _ _ hvs (vertices_visit_append base n f g w h fun x hx hreach => ?_)
              exact hbase x hx (.head hw hreach)
        refine hloop (next v) _ _ (List.Subset.refl _) ?_
        rw [Found.vertices_push, Found.vertices_push, h, List.cons_append]

/-- A vertex without successors. -/
lemma depthFirst_of_nil {bound : ℕ} {v : α} (h : next v = []) : depthFirst next bound v = [v] := by
  rw [depthFirst, explore, Found.toList, visit_of_not_mem next bound (by simp), h]
  rfl

/-- A vertex with one successor, from which no way leads back. -/
theorem depthFirst_of_single {live : Finset α} (hlive : ∀ v, next v ≠ [] → v ∈ live) {bound : ℕ}
    (hbound : live.card ≤ bound) {v w : α} (h : next v = [w]) (hback : ¬ Reaches next w v) :
    depthFirst next bound v = v :: depthFirst next bound w := by
  have hpush : Room live bound (Found.empty.push v).vertices :=
    (room_nil hbound).cons (hlive v (by simp [h])) (by simp)
  rw [depthFirst, depthFirst, explore, explore, Found.toList, Found.toList,
    visit_of_not_mem next bound (by simp), h, List.foldl_cons, List.foldl_nil,
    ← visit_succ hlive bound _ w hpush, vertices_visit_append [v] _ _ Found.empty w rfl]
  · simp
  · simpa using hback

end ClassAtlas.Search
