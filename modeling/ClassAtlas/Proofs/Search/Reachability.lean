import ClassAtlas.Search
import Mathlib.Data.Finset.Card
import Mathlib.Logic.Relation
import Mathlib.Tactic

/-!
# What a search finds

`Search.depthFirst` lists exactly the vertices that can be reached from its start, each once, the
start being the first.  The graph may be cyclic, and no vertex needs to be known beforehand: all
that is asked of the bound is that it is at least the number of vertices that *have* successors.

* `Reaches` — reachability along the successor lists.
* `mem_depthFirst` — **sound and complete**: a vertex is listed iff it can be reached.
* `nodup_depthFirst`, `depthFirst_eq_cons` — no vertex is listed twice, and the start comes first.
* `forall₂_depthFirst` — corresponding vertices of two graphs are listed in the same order.
* `reaches_of_mem_breadthFirst` — what the search by layers lists can be reached.
* `closed_breadthFirst`, `breadthFirst_subset` — the search by layers stops at excluded vertices
  only, and lists no more than it has to.

The bound counts the vertices on a path.  A search that runs out of it would have found more
vertices with successors on that one path than there are (`Room`).
-/

namespace ClassAtlas.Search

variable {α : Type} [DecidableEq α] [Hashable α]

/-- Whether `w` can be reached from `v` by going to successors, in any number of steps. -/
def Reaches (next : α → List α) : α → α → Prop :=
  Relation.ReflTransGen fun v w => w ∈ next v

omit [DecidableEq α] [Hashable α] in
lemma Reaches.mono {next next' : α → List α} (hsub : ∀ v, next v ⊆ next' v) {v w : α}
    (h : Reaches next v w) : Reaches next' v w :=
  h.lift id fun x _ hstep => hsub x hstep

omit [DecidableEq α] [Hashable α] in
/-- A set of vertices that holds the successors of its members holds all that they reach. -/
lemma Reaches.mem_of_closed {next : α → List α} {found : List α}
    (hclosed : ∀ v ∈ found, ∀ w ∈ next v, w ∈ found) {v w : α} (hv : v ∈ found)
    (h : Reaches next v w) : w ∈ found := by
  induction h with
  | refl => exact hv
  | tail _ hstep ih => exact hclosed _ ih _ hstep

omit [DecidableEq α] [Hashable α] in
/-- A vertex other than the start is a successor of what can be reached if and only if it can be
reached. -/
lemma exists_step_iff_reaches {next : α → List α} {v w : α} (hne : w ≠ v) :
    (∃ x, Reaches next v x ∧ w ∈ next x) ↔ Reaches next v w := by
  constructor
  · rintro ⟨x, hx, hw⟩
    exact hx.tail hw
  · intro h
    rcases h.cases_tail with rfl | h
    · exact absurd rfl hne
    · exact h

/-! ## One visit -/

@[simp] lemma Found.vertices_empty : (Found.empty : Found α).vertices = [] := rfl

@[simp] lemma Found.vertices_push (f : Found α) (v : α) :
    (f.push v).vertices = v :: f.vertices := rfl

lemma visit_of_mem (next : α → List α) (n : ℕ) {found : Found α} {v : α}
    (h : v ∈ found.vertices) : visit next n found v = found := by
  cases n with
  | zero => rfl
  | succ n => rw [visit, if_pos ((found.mem_set v).mpr h)]

lemma visit_of_not_mem (next : α → List α) (n : ℕ) {found : Found α} {v : α}
    (h : v ∉ found.vertices) :
    visit next (n + 1) found v = (next v).foldl (visit next n) (found.push v) := by
  rw [visit, if_neg (fun hm => h ((found.mem_set v).mp hm))]

/-- A property of the vertices found that every visit keeps is kept by a row of visits. -/
lemma foldl_visit_induction (next : α → List α) (n : ℕ) (P : Found α → Prop) :
    ∀ (vs : List α) (found : Found α), P found →
      (∀ f, P f → ∀ v ∈ vs, P (visit next n f v)) → P (vs.foldl (visit next n) found)
  | [], _, h, _ => h
  | v :: vs, found, h, step => by
      rw [List.foldl_cons]
      refine foldl_visit_induction next n P vs _ (step _ h v (List.mem_cons_self ..)) ?_
      exact fun f hf w hw => step f hf w (List.mem_cons_of_mem _ hw)

/-- Visits only add vertices, in front of those found before. -/
lemma suffix_visit (next : α → List α) :
    ∀ (n : ℕ) (found : Found α) (v : α), found.vertices <:+ (visit next n found v).vertices
  | 0, found, _ => List.suffix_refl _
  | n + 1, found, v => by
      by_cases h : v ∈ found.vertices
      · rw [visit_of_mem next _ h]
      · rw [visit_of_not_mem next n h]
        refine foldl_visit_induction next n (fun f => found.vertices <:+ f.vertices) _ _ ?_ ?_
        · exact List.suffix_cons v found.vertices
        · exact fun f hf w _ => hf.trans (suffix_visit next n f w)

/-- No vertex is found twice. -/
lemma nodup_visit (next : α → List α) :
    ∀ (n : ℕ) (found : Found α) (v : α), found.vertices.Nodup →
      (visit next n found v).vertices.Nodup
  | 0, _, _, h => h
  | n + 1, found, v, hnd => by
      by_cases h : v ∈ found.vertices
      · rw [visit_of_mem next _ h]; exact hnd
      · rw [visit_of_not_mem next n h]
        refine foldl_visit_induction next n (fun f => f.vertices.Nodup) _ _ ?_ ?_
        · exact List.nodup_cons.mpr ⟨h, hnd⟩
        · exact fun f hf w _ => nodup_visit next n f w hf

/-- What a visit adds can be reached from the vertex visited. -/
lemma reaches_of_mem_visit (next : α → List α) :
    ∀ (n : ℕ) (found : Found α) (v w : α), w ∈ (visit next n found v).vertices →
      w ∈ found.vertices ∨ Reaches next v w
  | 0, _, _, _, h => Or.inl h
  | n + 1, found, v, w, hw => by
      by_cases h : v ∈ found.vertices
      · rw [visit_of_mem next _ h] at hw; exact Or.inl hw
      · rw [visit_of_not_mem next n h] at hw
        refine foldl_visit_induction next n
          (fun f => ∀ w ∈ f.vertices, w ∈ found.vertices ∨ Reaches next v w) _ _ ?_ ?_ w hw
        · intro x hx
          rcases List.mem_cons.mp hx with rfl | hx
          · exact Or.inr Relation.ReflTransGen.refl
          · exact Or.inl hx
        · intro f hf x hx y hy
          rcases reaches_of_mem_visit next n f x y hy with hy | hxy
          · exact hf y hy
          · exact Or.inr (Relation.ReflTransGen.head hx hxy)

/-! ## Enough room

`live` holds the vertices that have successors.  On the way down every visit takes one of them away
from those still to be found, and one from the length that is left, so the length never runs out
before the vertices do.
-/

/-- The length left exceeds the number of live vertices that are still to be found. -/
def Room (live : Finset α) (n : ℕ) (found : List α) : Prop :=
  (live.filter fun v => v ∉ found).card < n

omit [Hashable α] in
lemma room_nil {live : Finset α} {n : ℕ} (h : live.card ≤ n) : Room live (n + 1) [] :=
  lt_of_le_of_lt (Finset.card_filter_le _ _) (Nat.lt_succ_of_le h)

omit [Hashable α] in
lemma Room.mono {live : Finset α} {n : ℕ} {f g : List α} (h : Room live n f) (hsub : f ⊆ g) :
    Room live n g := by
  refine lt_of_le_of_lt (Finset.card_le_card ?_) h
  intro v hv
  rw [Finset.mem_filter] at hv ⊢
  exact ⟨hv.1, fun hm => hv.2 (hsub hm)⟩

omit [Hashable α] in
lemma Room.cons {live : Finset α} {n : ℕ} {f : List α} {v : α} (h : Room live (n + 1) f)
    (hlive : v ∈ live) (hv : v ∉ f) : Room live n (v :: f) := by
  have hlt : (live.filter fun w => w ∉ v :: f).card < (live.filter fun w => w ∉ f).card := by
    refine Finset.card_lt_card (Finset.ssubset_iff_of_subset ?_ |>.mpr ⟨v, ?_, ?_⟩)
    · intro w hw
      rw [Finset.mem_filter, List.mem_cons, not_or] at hw
      exact Finset.mem_filter.mpr ⟨hw.1, hw.2.2⟩
    · exact Finset.mem_filter.mpr ⟨hlive, hv⟩
    · simp
  exact Nat.lt_of_lt_of_le hlt (Nat.lt_succ_iff.mp h)

/-- With enough room the vertex visited is found, and so are the successors of every vertex that
the visit adds.  Those found before, some of which are still being worked on, are not asked about.
-/
lemma closed_visit {next : α → List α} {live : Finset α} (hlive : ∀ v, next v ≠ [] → v ∈ live) :
    ∀ (n : ℕ) (found : Found α) (v : α), Room live n found.vertices →
      v ∈ (visit next n found v).vertices ∧
      ∀ w ∈ (visit next n found v).vertices, w ∉ found.vertices →
        ∀ x ∈ next w, x ∈ (visit next n found v).vertices
  | 0, _, _, hroom => absurd hroom (Nat.not_lt_zero _)
  | n + 1, found, v, hroom => by
      by_cases h : v ∈ found.vertices
      · rw [visit_of_mem next _ h]
        exact ⟨h, fun w hw hnew => absurd hw hnew⟩
      rw [visit_of_not_mem next n h]
      have hmem : v ∈ ((next v).foldl (visit next n) (found.push v)).vertices := by
        refine foldl_visit_induction next n (fun f => v ∈ f.vertices) _ _ (by simp) ?_
        exact fun f hf w _ => (suffix_visit next n f w).subset hf
      refine ⟨hmem, ?_⟩
      -- the row of visits to the successors: all of them are found, and all that is new but `v`
      -- itself has its successors found
      have row : ∀ (ws : List α) (f : Found α), (ws ≠ [] → Room live n f.vertices) →
          (∀ w ∈ ws, w ∈ (ws.foldl (visit next n) f).vertices) ∧
          ∀ w ∈ (ws.foldl (visit next n) f).vertices, w ∉ f.vertices →
            ∀ x ∈ next w, x ∈ (ws.foldl (visit next n) f).vertices := by
        intro ws
        induction ws with
        | nil => intro f _; exact ⟨by simp, fun w hw hnew => absurd hw hnew⟩
        | cons y ys ih =>
            intro f hf
            have hroom := hf (by simp)
            obtain ⟨hy, hyclosed⟩ := closed_visit hlive n f y hroom
            have hsub := (suffix_visit next n f y).subset
            obtain ⟨hys, hysclosed⟩ := ih (visit next n f y) (fun _ => hroom.mono hsub)
            have hsub' : (visit next n f y).vertices
                ⊆ (ys.foldl (visit next n) (visit next n f y)).vertices := by
              refine foldl_visit_induction next n
                (fun g => (visit next n f y).vertices ⊆ g.vertices) _ _ (List.Subset.refl _) ?_
              exact fun g hg w _ => List.Subset.trans hg (suffix_visit next n g w).subset
            rw [List.foldl_cons]
            refine ⟨?_, fun w hw hnew x hx => ?_⟩
            · intro w hw
              rcases List.mem_cons.mp hw with rfl | hw
              · exact hsub' hy
              · exact hys w hw
            · by_cases hwy : w ∈ (visit next n f y).vertices
              · exact hsub' (hyclosed w hwy hnew x hx)
              · exact hysclosed w hw hwy x hx
      have hpush : next v ≠ [] → Room live n (found.push v).vertices := fun hne =>
        hroom.cons (hlive v hne) h
      obtain ⟨hall, hclosed⟩ := row (next v) (found.push v) hpush
      intro w hw hnew x hx
      by_cases hwv : w = v
      · subst hwv; exact hall x hx
      · refine hclosed w hw ?_ x hx
        rw [Found.vertices_push, List.mem_cons, not_or]
        exact ⟨hwv, hnew⟩

/-- With enough room a visit does not depend on the length. -/
lemma visit_succ {next : α → List α} {live : Finset α} (hlive : ∀ v, next v ≠ [] → v ∈ live) :
    ∀ (n : ℕ) (found : Found α) (v : α), Room live n found.vertices →
      visit next (n + 1) found v = visit next n found v
  | 0, _, _, hroom => absurd hroom (Nat.not_lt_zero _)
  | n + 1, found, v, hroom => by
      by_cases h : v ∈ found.vertices
      · rw [visit_of_mem next _ h, visit_of_mem next _ h]
      rw [visit_of_not_mem next _ h, visit_of_not_mem next _ h]
      have row : ∀ (ws : List α) (f : Found α), (ws ≠ [] → Room live n f.vertices) →
          ws.foldl (visit next (n + 1)) f = ws.foldl (visit next n) f := by
        intro ws
        induction ws with
        | nil => intro f _; rfl
        | cons y ys ih =>
            intro f hf
            have hroom := hf (by simp)
            rw [List.foldl_cons, List.foldl_cons, visit_succ hlive n f y hroom]
            exact ih _ fun _ => hroom.mono (suffix_visit next n f y).subset
      exact row _ _ fun hne => hroom.cons (hlive v hne) h

/-! ## The searches -/

section

variable {next : α → List α} {bound : ℕ} {start : α}

/-- What is explored is what can be reached, if the bound is at least the number of vertices that
have successors. -/
lemma mem_explore {live : Finset α} (hlive : ∀ v, next v ≠ [] → v ∈ live)
    (hbound : live.card ≤ bound) {w : α} :
    w ∈ (explore next bound start).vertices ↔ Reaches next start w := by
  obtain ⟨hstart, hclosed⟩ := closed_visit hlive (bound + 1) Found.empty start (room_nil hbound)
  constructor
  · intro hw
    rcases reaches_of_mem_visit next _ _ _ _ hw with hw | hw
    · simp at hw
    · exact hw
  · intro hw
    exact hw.mem_of_closed (fun v hv x hx => hclosed v hv (by simp) x hx) hstart

/-- **Depth-first search is sound and complete.** -/
theorem mem_depthFirst {live : Finset α} (hlive : ∀ v, next v ≠ [] → v ∈ live)
    (hbound : live.card ≤ bound) {w : α} :
    w ∈ depthFirst next bound start ↔ Reaches next start w := by
  rw [depthFirst, Found.toList, List.mem_reverse, mem_explore hlive hbound]

/-- Soundness alone does not depend on the bound. -/
lemma reaches_of_mem_depthFirst {w : α} (h : w ∈ depthFirst next bound start) :
    Reaches next start w := by
  rw [depthFirst, Found.toList, List.mem_reverse] at h
  rcases reaches_of_mem_visit next _ _ _ _ h with h | h
  · simp at h
  · exact h

/-- A larger bound does not change the answer. -/
lemma depthFirst_eq_of_le {live : Finset α} (hlive : ∀ v, next v ≠ [] → v ∈ live)
    (hbound : live.card ≤ bound) {bound' : ℕ} (hle : bound ≤ bound') :
    depthFirst next bound' start = depthFirst next bound start := by
  obtain ⟨extra, rfl⟩ := Nat.exists_eq_add_of_le hle
  induction extra with
  | zero => rfl
  | succ extra ih =>
      have hroom : Room live (bound + extra + 1) (Found.empty : Found α).vertices :=
        room_nil (hbound.trans (Nat.le_add_right _ _))
      rw [← ih (Nat.le_add_right _ _), depthFirst, depthFirst, explore, explore, ← Nat.add_assoc,
        visit_succ hlive _ _ _ hroom]

/-- No vertex is listed twice. -/
theorem nodup_depthFirst : (depthFirst next bound start).Nodup := by
  rw [depthFirst, Found.toList, List.nodup_reverse]
  exact nodup_visit next _ _ _ (by simp)

/-- The start comes first. -/
theorem depthFirst_eq_cons (next : α → List α) (bound : ℕ) (start : α) :
    ∃ rest, depthFirst next bound start = start :: rest := by
  have hsuffix : [start] <:+ (explore next bound start).vertices := by
    rw [explore, visit_of_not_mem next bound (by simp)]
    refine foldl_visit_induction next bound (fun f => [start] <:+ f.vertices) _ _ ?_ ?_
    · exact List.suffix_refl _
    · exact fun f hf w _ => hf.trans (suffix_visit next bound f w)
  obtain ⟨before, hbefore⟩ := hsuffix
  refine ⟨before.reverse, ?_⟩
  rw [depthFirst, Found.toList, ← hbefore, List.reverse_append]
  rfl

/-- What follows the start are the other vertices that are listed. -/
lemma mem_tail_depthFirst {w : α} :
    w ∈ (depthFirst next bound start).tail ↔ w ∈ depthFirst next bound start ∧ w ≠ start := by
  have hnd : (depthFirst next bound start).Nodup := nodup_depthFirst
  obtain ⟨rest, hrest⟩ := depthFirst_eq_cons next bound start
  rw [hrest] at hnd ⊢
  have hnot := (List.nodup_cons.mp hnd).1
  constructor
  · intro hw
    exact ⟨List.mem_cons_of_mem _ hw, fun heq => hnot (heq ▸ hw)⟩
  · rintro ⟨hw, hne⟩
    exact (List.mem_cons.mp hw).resolve_left hne

end

/-! ## Corresponding graphs -/

section

variable {β : Type} [DecidableEq β] [Hashable β] {R : α → β → Prop} {next : α → List α}
  {next' : β → List β}

lemma forall₂_visit (hR : Relator.BiUnique R)
    (hnext : ∀ v w, R v w → List.Forall₂ R (next v) (next' w)) :
    ∀ (n : ℕ) {found : Found α} {found' : Found β} {v : α} {w : β}, R v w →
      List.Forall₂ R found.vertices found'.vertices →
      List.Forall₂ R (visit next n found v).vertices (visit next' n found' w).vertices
  | 0, _, _, _, _, _, hfound => hfound
  | n + 1, found, found', v, w, hvw, hfound => by
      have hmem : v ∈ found.vertices ↔ w ∈ found'.vertices := List.rel_mem hR hvw hfound
      by_cases hv : v ∈ found.vertices
      · rw [visit_of_mem next _ hv, visit_of_mem next' _ (hmem.mp hv)]
        exact hfound
      · rw [visit_of_not_mem next n hv, visit_of_not_mem next' n (fun hw => hv (hmem.mpr hw))]
        have row : ∀ {vs : List α} {ws : List β}, List.Forall₂ R vs ws →
            ∀ {f : Found α} {f' : Found β}, List.Forall₂ R f.vertices f'.vertices →
            List.Forall₂ R (vs.foldl (visit next n) f).vertices
              (ws.foldl (visit next' n) f').vertices := by
          intro vs ws h
          induction h with
          | nil => exact fun hf => hf
          | cons hxy _ ih => exact fun hf => ih (forall₂_visit hR hnext n hxy hf)
        exact row (hnext v w hvw) (.cons hvw hfound)

/-- **Corresponding vertices are found in the same order**, if a vertex corresponds to one at most,
and if their successors correspond. -/
theorem forall₂_depthFirst (hR : Relator.BiUnique R)
    (hnext : ∀ v w, R v w → List.Forall₂ R (next v) (next' w)) (bound : ℕ) {v : α} {w : β}
    (h : R v w) : List.Forall₂ R (depthFirst next bound v) (depthFirst next' bound w) := by
  rw [depthFirst, depthFirst, Found.toList, Found.toList, List.forall₂_reverse_iff]
  exact forall₂_visit hR hnext (bound + 1) h .nil

end

/-! ## By layers -/

omit [Hashable α] in
/-- What the search by layers lists was listed before or can be reached from the layer. -/
lemma reaches_of_mem_layers (next : α → List α) (excluded : List α) :
    ∀ (count : ℕ) (found layer : List α) (w : α), w ∈ layers next excluded count found layer →
      w ∈ found ∨ ∃ v ∈ layer, Reaches next v w
  | 0, _, _, _, h => Or.inl h
  | count + 1, found, layer, w, h => by
      rw [layers] at h
      split_ifs at h with hempty
      · exact Or.inl h
      have fresh {v : α}
          (hv : v ∈ (layer.filter fun v => v ∉ excluded ∧ v ∉ found).eraseDups) : v ∈ layer :=
        (List.mem_filter.mp (List.mem_eraseDups.mp hv)).1
      rcases reaches_of_mem_layers next excluded count _ _ w h with h | ⟨v, hv, hvw⟩
      · rcases List.mem_append.mp h with h | h
        · exact Or.inl h
        · exact Or.inr ⟨w, fresh h, Relation.ReflTransGen.refl⟩
      · obtain ⟨u, hu, huv⟩ := List.mem_flatMap.mp hv
        exact Or.inr ⟨u, fresh hu, Relation.ReflTransGen.head huv hvw⟩

omit [Hashable α] in
/-- What the search by layers lists can be reached from one of its start vertices. -/
theorem reaches_of_mem_breadthFirst {next : α → List α} {bound : ℕ} {excluded start : List α}
    {w : α} (h : w ∈ breadthFirst next bound excluded start) :
    ∃ v ∈ start, Reaches next v w := by
  rcases reaches_of_mem_layers next excluded _ _ _ _ h with h | h
  · simp at h
  · exact h

/-- What a search stops at: it holds the successors of its members, unless they are excluded. -/
def ClosedUpTo (next : α → List α) (excluded found : List α) : Prop :=
  ∀ v ∈ found, ∀ w ∈ next v, w ∉ excluded → w ∈ found

omit [Hashable α] in
/-- With enough room for a layer that is not empty, the search by layers goes on until all
successors are found.  The successors of what was found before are found as well or wait in the
layer. -/
lemma closed_layers {next : α → List α} {excluded : List α} {live : Finset α}
    (hlive : ∀ v, next v ≠ [] → v ∈ live) :
    ∀ (count : ℕ) (found layer : List α), (layer ≠ [] → Room live count found) →
      (∀ v ∈ found, ∀ w ∈ next v, w ∉ excluded → w ∈ found ∨ w ∈ layer) →
      found ⊆ layers next excluded count found layer ∧
        (∀ v ∈ layer, v ∉ excluded → v ∈ layers next excluded count found layer) ∧
        ClosedUpTo next excluded (layers next excluded count found layer)
  | 0, found, layer, hroom, hwait => by
      have hlayer : layer = [] := by
        by_contra hne
        exact Nat.not_lt_zero _ (hroom hne)
      subst hlayer
      rw [layers]
      refine ⟨List.Subset.refl _, by simp, fun v hv w hw hex => ?_⟩
      simpa using hwait v hv w hw hex
  | count + 1, found, layer, hroom, hwait => by
      rw [layers]
      have hfresh : ∀ v, v ∈ (layer.filter fun v => v ∉ excluded ∧ v ∉ found).eraseDups ↔
          v ∈ layer ∧ v ∉ excluded ∧ v ∉ found := by simp
      generalize (layer.filter fun v => v ∉ excluded ∧ v ∉ found).eraseDups = fresh at hfresh
      split_ifs with hempty
      · have hdone : ∀ v ∈ layer, v ∉ excluded → v ∈ found := by
          intro v hv hex
          by_contra hnew
          have hmem := (hfresh v).mpr ⟨hv, hex, hnew⟩
          rw [List.isEmpty_iff.mp hempty] at hmem
          cases hmem
        refine ⟨List.Subset.refl _, hdone, fun v hv w hw hex => ?_⟩
        exact (hwait v hv w hw hex).elim id fun hlayer => hdone w hlayer hex
      · have hroom' : fresh.flatMap next ≠ [] → Room live count (found ++ fresh) := by
          intro hne
          obtain ⟨w, hw⟩ := List.exists_mem_of_ne_nil _ hne
          obtain ⟨v, hv, hw⟩ := List.mem_flatMap.mp hw
          obtain ⟨hlayer, -, hnew⟩ := (hfresh v).mp hv
          have hcons := (hroom (List.ne_nil_of_mem hlayer)).cons
            (hlive v (List.ne_nil_of_mem hw)) hnew
          refine hcons.mono (List.cons_subset.mpr ⟨?_, List.subset_append_left _ _⟩)
          exact List.mem_append_right _ hv
        obtain ⟨hsub, hlayer, hclosed⟩ := closed_layers hlive count (found ++ fresh)
          (fresh.flatMap next) hroom' fun v hv w hw hex => by
            rcases List.mem_append.mp hv with hv | hv
            · refine Or.inl ?_
              by_cases hfound : w ∈ found
              · exact List.mem_append_left _ hfound
              · have hwaits := (hwait v hv w hw hex).resolve_left hfound
                exact List.mem_append_right _ ((hfresh w).mpr ⟨hwaits, hex, hfound⟩)
            · exact Or.inr (List.mem_flatMap_of_mem hv hw)
        refine ⟨List.Subset.trans (List.subset_append_left _ _) hsub,
          fun v hv hex => hsub ?_, hclosed⟩
        by_cases hfound : v ∈ found
        · exact List.mem_append_left _ hfound
        · exact List.mem_append_right _ ((hfresh v).mpr ⟨hv, hex, hfound⟩)

omit [Hashable α] in
/-- **The search by layers stops at excluded vertices only**: it lists every other start vertex, and
every other successor of what it lists. -/
theorem closed_breadthFirst {next : α → List α} {bound : ℕ} {excluded start : List α}
    {live : Finset α} (hlive : ∀ v, next v ≠ [] → v ∈ live) (hbound : live.card ≤ bound) :
    (∀ v ∈ start, v ∉ excluded → v ∈ breadthFirst next bound excluded start) ∧
      ClosedUpTo next excluded (breadthFirst next bound excluded start) :=
  (closed_layers hlive (bound + 1) [] start (fun _ => room_nil hbound) (by simp)).2

omit [Hashable α] in
lemma layers_subset {next : α → List α} {excluded set : List α}
    (hclosed : ClosedUpTo next excluded set) :
    ∀ (count : ℕ) (found layer : List α), found ⊆ set → (∀ v ∈ layer, v ∉ excluded → v ∈ set) →
      layers next excluded count found layer ⊆ set
  | 0, _, _, hfound, _ => hfound
  | count + 1, found, layer, hfound, hlayer => by
      rw [layers]
      have hfresh : ∀ v ∈ (layer.filter fun v => v ∉ excluded ∧ v ∉ found).eraseDups, v ∈ set := by
        intro v hv
        obtain ⟨hv, hnew⟩ := List.mem_filter.mp (List.mem_eraseDups.mp hv)
        exact hlayer v hv (of_decide_eq_true hnew).1
      split_ifs with hempty
      · exact hfound
      · refine layers_subset hclosed count _ _ (List.append_subset.mpr ⟨hfound, hfresh⟩) ?_
        intro w hw hex
        obtain ⟨v, hv, hw⟩ := List.mem_flatMap.mp hw
        exact hclosed v (hfresh v hv) w hw hex

omit [Hashable α] in
/-- What the search by layers lists is the least of the sets that it could stop at. -/
lemma breadthFirst_subset {next : α → List α} {bound : ℕ} {excluded start set : List α}
    (hstart : ∀ v ∈ start, v ∉ excluded → v ∈ set) (hclosed : ClosedUpTo next excluded set) :
    breadthFirst next bound excluded start ⊆ set :=
  layers_subset hclosed (bound + 1) [] start (List.nil_subset _) hstart

end ClassAtlas.Search
