import ClassAtlas.Proofs.Search.LowLinks

/-!
# The components of a graph

`Search.components` takes the vertices of a graph apart into the largest sets of vertices that all
reach each other.  The pass is made from every vertex of the graph that it has not come to; in
between no vertex waits on the stack, so at the end the components that are known are all there are.

* `IsComponents` — what it takes to be the list of components.
* `LowLinks.inv_foldl` — the pass from all vertices keeps the invariant of the stack.
* `isComponents_components` — **the components are the classes of `Together`**, each listed once.
-/

namespace ClassAtlas.Search

variable {α : Type}

/-- The components of a graph on a list of vertices: sets that cover the vertices, have none in
common, and hold with a vertex exactly the vertices together with it. -/
structure IsComponents (vertices : List α) (next : α → List α) (cs : List (List α)) : Prop where
  covers : ∀ v ∈ vertices, ∃ c ∈ cs, v ∈ c
  subset : ∀ c ∈ cs, c ⊆ vertices
  together : ∀ c ∈ cs, ∀ v ∈ c, ∀ w, w ∈ c ↔ Together next v w
  nodup : ∀ c ∈ cs, c.Nodup
  disjoint : cs.Pairwise List.Disjoint

variable [DecidableEq α] [Hashable α] {vertices : List α} {next : α → List α}

/-! ## All vertices -/

namespace LowLinks

variable {s : LowLinks α}

lemma inv_empty (vertices : List α) (next : α → List α) :
    Inv vertices next [] ({} : LowLinks α) where
  mem_index v := by simp [met]
  waits_iff v := by simp [waits]
  number_lt v hv := by cases hv
  nodup := List.nodup_nil
  descending := List.Pairwise.nil
  within := List.nil_subset _
  path_subset := List.nil_subset _
  closed v hv := by cases hv
  settled v hv := by cases hv
  component c hc := by cases hc
  above v hv := by cases hv
  returns v hv := by cases hv

/-- One more vertex has been met, and none is being worked on. -/
lemma inv_connectNew (hstay : ∀ v, next v ⊆ vertices) {v : α} (hvertex : v ∈ vertices)
    (hs : Inv vertices next [] s) :
    Inv vertices next [] (connectNew next vertices.length s v) ∧
      v :: s.met ⊆ (connectNew next vertices.length s v).met := by
  rw [connectNew]
  by_cases hv : v ∈ s.met
  · rw [if_neg (not_not.mpr ((hs.mem_index v).mpr hv))]
    exact ⟨hs, List.cons_subset.mpr ⟨hv, List.Subset.refl _⟩⟩
  · rw [if_pos (mt (hs.mem_index v).mp hv)]
    have hroom : Room vertices.toFinset (vertices.length + 1) s.met :=
      (room_nil (List.toFinset_card_le vertices)).mono (List.nil_subset _)
    have hconnected := connected_connect hstay vertices.length [] s v hs hvertex hv
      (fun _ hx => by cases hx) hroom
    exact ⟨hconnected.inv, List.cons_subset.mpr ⟨hconnected.mem, hconnected.frame.met⟩⟩

/-- **The pass from all vertices keeps the invariant**, and comes to all of them. -/
lemma inv_foldl (hstay : ∀ v, next v ⊆ vertices) :
    ∀ (vs : List α) (s : LowLinks α), vs ⊆ vertices → Inv vertices next [] s →
      Inv vertices next [] (vs.foldl (connectNew next vertices.length) s) ∧
        vs ++ s.met ⊆ (vs.foldl (connectNew next vertices.length) s).met
  | [], _, _, hs => ⟨hs, List.Subset.refl _⟩
  | v :: vs, s, hsub, hs => by
      obtain ⟨hvertex, hsub⟩ := List.cons_subset.mp hsub
      obtain ⟨hstep, hmet⟩ := inv_connectNew hstay hvertex hs
      obtain ⟨hinv, hall⟩ := inv_foldl hstay vs _ hsub hstep
      rw [List.append_subset] at hall
      rw [List.foldl_cons]
      refine ⟨hinv, ?_⟩
      rw [List.cons_append, List.cons_subset, List.append_subset]
      rw [List.cons_subset] at hmet
      exact ⟨hall.2 hmet.1, hall.1, List.Subset.trans hmet.2 hall.2⟩

/-- When no vertex is being worked on, the components that are known are those of the graph. -/
lemma Inv.isComponents (hs : Inv vertices next [] s) (hall : vertices ⊆ s.met) :
    IsComponents vertices next s.result.reverse := by
  have hmet : s.met = s.result.flatten := by
    rw [met, hs.stack_eq_nil, List.nil_append]
  rw [hmet] at hall
  obtain ⟨hnodup, hdisjoint⟩ := List.nodup_flatten.mp (hmet ▸ hs.nodup)
  refine ⟨fun v hv => ?_, fun c hc v hv => ?_, fun c hc => ?_, fun c hc => ?_, ?_⟩
  · obtain ⟨c, hc, hvc⟩ := List.mem_flatten.mp (hall hv)
    exact ⟨c, List.mem_reverse.mpr hc, hvc⟩
  · exact hs.within (hmet ▸ List.mem_flatten.mpr ⟨c, List.mem_reverse.mp hc, hv⟩)
  · exact hs.component c (List.mem_reverse.mp hc)
  · exact hnodup c (List.mem_reverse.mp hc)
  · exact List.pairwise_reverse.mpr (hdisjoint.imp fun h => h.symm)

end LowLinks

/-! ## The table of a graph -/

/-- Looking a vertex up in the table of a graph. -/
lemma getD_table (hnd : vertices.Nodup) (next : α → List α) (v : α) :
    (table vertices next).getD v [] = if v ∈ vertices then next v else [] := by
  rw [table]
  split_ifs with hv
  · refine Std.HashMap.getD_ofList_of_mem (BEq.refl v) ?_ (List.mem_map.mpr ⟨v, hv, rfl⟩)
    rw [List.pairwise_map]
    exact hnd.imp fun hne => beq_eq_false_iff_ne.mpr hne
  · refine Std.HashMap.getD_ofList_of_contains_eq_false ?_
    simpa [List.map_map, Function.comp_def] using hv

/-- In a graph that stays among its vertices, a walk that starts among them needs the table
only. -/
lemma reaches_table_iff (hnd : vertices.Nodup) (hstay : ∀ v ∈ vertices, next v ⊆ vertices) {v w : α}
    (hv : v ∈ vertices) :
    Reaches (fun x => (table vertices next).getD x []) v w ↔ Reaches next v w := by
  constructor
  · intro h
    refine Relation.ReflTransGen.mono (fun x y hxy => ?_) v w h
    simp only [getD_table hnd] at hxy
    split_ifs at hxy with hx
    · exact hxy
    · simp at hxy
  · intro h
    -- along the walk both stay together: the table is the graph on the vertices met
    have walk : Reaches (fun x => (table vertices next).getD x []) v w ∧ w ∈ vertices := by
      induction h with
      | refl => exact ⟨Relation.ReflTransGen.refl, hv⟩
      | tail _ hstep ih =>
          refine ⟨Relation.ReflTransGen.tail ih.1 ?_, hstay _ ih.2 hstep⟩
          simp only [getD_table hnd, if_pos ih.2]
          exact hstep
    exact walk.1

/-- The components of a graph on a list of vertices are those of its table. -/
lemma isComponents_table (hnd : vertices.Nodup) (hstay : ∀ v ∈ vertices, next v ⊆ vertices)
    {cs : List (List α)}
    (h : IsComponents vertices (fun v => (table vertices next).getD v []) cs) :
    IsComponents vertices next cs := by
  have htogether : ∀ {v w : α}, v ∈ vertices → w ∈ vertices →
      (Together (fun v => (table vertices next).getD v []) v w ↔ Together next v w) :=
    fun hv hw => and_congr (reaches_table_iff hnd hstay hv) (reaches_table_iff hnd hstay hw)
  refine ⟨h.covers, h.subset, fun c hc v hv w => ?_, h.nodup, h.disjoint⟩
  have hvertex := h.subset c hc hv
  constructor
  · intro hw
    exact (htogether hvertex (h.subset c hc hw)).mp ((h.together c hc v hv w).mp hw)
  · intro hw
    have hw' : w ∈ vertices := hw.1.mem_of_closed (fun x hx y hy => hstay x hx hy) hvertex
    exact (h.together c hc v hv w).mpr ((htogether hvertex hw').mpr hw)

/-- **The components of a graph are the sets of vertices that all reach each other.** -/
theorem isComponents_components (hnd : vertices.Nodup)
    (hstay : ∀ v ∈ vertices, next v ⊆ vertices) :
    IsComponents vertices next (components vertices next) := by
  have htable : ∀ v, (table vertices next).getD v [] ⊆ vertices := by
    intro v
    rw [getD_table hnd]
    split_ifs with hv
    · exact hstay v hv
    · exact List.nil_subset _
  obtain ⟨hinv, hall⟩ := LowLinks.inv_foldl htable vertices {} (List.Subset.refl _)
    (LowLinks.inv_empty _ _)
  exact isComponents_table hnd hstay (hinv.isComponents (List.append_subset.mp hall).1)

end ClassAtlas.Search
