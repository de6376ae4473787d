import ClassAtlas.Distinct
import Mathlib.Data.List.Forall2
import Mathlib.Order.Lattice

/-!
# Distinct and sorted lists

* `mem_of_mem_distinctBy` — only items of the list are kept.
* `exists_mem_distinctBy` — for every item, one with its key is kept; `mem_distinctBy_of_key` — so
  nothing is lost if the key tells the items apart.
* `pairwise_distinctBy` — no two items that are kept have the same key.
* `mem_distinctBy_iff` — of the items with the same key, the first is kept.
* `distinctBy_eq_firsts` — **only items that have the key of an earlier one are left out**.
* `forall₂_distinctBy` — of corresponding lists with the same keys, corresponding items are kept.
* `pairwise_mergeSort_of_key` — sorting by a key that differs from item to item.
-/

namespace ClassAtlas

variable {α β : Type} [DecidableEq β] [Hashable β] {key : α → β}

lemma mem_of_mem_distinctFrom {seen : Std.HashSet β} {items : List α} {x : α}
    (h : x ∈ distinctFrom key seen items) : x ∈ items ∧ key x ∉ seen := by
  fun_induction distinctFrom key seen items with
  | case1 => cases h
  | case2 seen y rest hy ih => exact ⟨List.mem_cons_of_mem _ (ih h).1, (ih h).2⟩
  | case3 seen y rest hy ih =>
      rcases List.mem_cons.mp h with rfl | h
      · exact ⟨List.mem_cons_self .., hy⟩
      · obtain ⟨hmem, hnew⟩ := ih h
        exact ⟨List.mem_cons_of_mem _ hmem,
          fun hseen => hnew (Std.HashSet.mem_insert.mpr (.inr hseen))⟩

lemma exists_mem_distinctFrom {seen : Std.HashSet β} {items : List α} {x : α} (hx : x ∈ items)
    (hseen : key x ∉ seen) : ∃ y ∈ distinctFrom key seen items, key y = key x := by
  fun_induction distinctFrom key seen items with
  | case1 => cases hx
  | case2 seen y rest hy ih =>
      rcases List.mem_cons.mp hx with rfl | hx
      · exact absurd hy hseen
      · exact ih hx hseen
  | case3 seen y rest hy ih =>
      by_cases heq : key y = key x
      · exact ⟨y, List.mem_cons_self .., heq⟩
      · rcases List.mem_cons.mp hx with rfl | hx
        · exact absurd rfl heq
        · obtain ⟨z, hz, hzx⟩ := ih hx (by simpa [Std.HashSet.mem_insert, heq] using hseen)
          exact ⟨z, List.mem_cons_of_mem _ hz, hzx⟩

lemma pairwise_distinctFrom (key : α → β) (seen : Std.HashSet β) (items : List α) :
    (distinctFrom key seen items).Pairwise fun x y => key x ≠ key y := by
  fun_induction distinctFrom key seen items with
  | case1 => exact List.Pairwise.nil
  | case2 seen y rest hy ih => exact ih
  | case3 seen y rest hy ih =>
      refine List.pairwise_cons.mpr ⟨fun x hx heq => ?_, ih⟩
      exact (mem_of_mem_distinctFrom hx).2 (Std.HashSet.mem_insert.mpr (.inl (by simpa using heq)))

theorem mem_of_mem_distinctBy {items : List α} {x : α} (h : x ∈ distinctBy key items) :
    x ∈ items :=
  (mem_of_mem_distinctFrom h).1

/-- For every item, one with its key is kept. -/
theorem exists_mem_distinctBy {items : List α} {x : α} (hx : x ∈ items) :
    ∃ y ∈ distinctBy key items, key y = key x :=
  exists_mem_distinctFrom hx Std.HashSet.not_mem_empty

/-- Nothing is lost if the key tells the items apart. -/
theorem mem_distinctBy_of_key {items : List α} {x : α}
    (hkey : ∀ x ∈ items, ∀ y ∈ items, key x = key y → x = y) :
    x ∈ distinctBy key items ↔ x ∈ items := by
  refine ⟨mem_of_mem_distinctBy, fun hx => ?_⟩
  obtain ⟨y, hy, heq⟩ : ∃ y ∈ distinctBy key items, key y = key x := exists_mem_distinctBy hx
  rwa [← hkey y (mem_of_mem_distinctBy hy) x hx heq]

theorem pairwise_distinctBy (key : α → β) (items : List α) :
    (distinctBy key items).Pairwise fun x y => key x ≠ key y :=
  pairwise_distinctFrom key ∅ items

lemma mem_distinctFrom_iff {seen : Std.HashSet β} {items : List α} {x : α} :
    x ∈ distinctFrom key seen items ↔
      key x ∉ seen ∧ items.find? (fun y => key y = key x) = some x := by
  fun_induction distinctFrom key seen items with
  | case1 => simp
  | case2 seen y rest hy ih =>
      -- an item whose key was seen is no item that is kept
      by_cases heq : key y = key x
      · simp [ih, ← heq, hy]
      · simp [ih, heq]
  | case3 seen y rest hy ih =>
      rw [List.mem_cons, ih, Std.HashSet.mem_insert]
      by_cases heq : key y = key x
      · rw [heq] at hy
        simpa [heq, hy] using eq_comm
      · have hne : x ≠ y := fun hxy => heq (congrArg key hxy.symm)
        simp [heq, hne]

/-- Of the items with the same key, the first is kept. -/
theorem mem_distinctBy_iff {items : List α} {x : α} :
    x ∈ distinctBy key items ↔ items.find? (fun y => key y = key x) = some x := by
  rw [distinctBy, mem_distinctFrom_iff]
  simp

/-- The items that have the key of no earlier one, in the order of the list. -/
def firsts (key : α → β) (items : List α) : List α :=
  (items.zipIdx.filter fun (x, i) => ∀ y ∈ items.take i, key y ≠ key x).map Prod.fst

lemma distinctFrom_eq (seen : Std.HashSet β) (items : List α) :
    distinctFrom key seen items =
      (items.zipIdx.filter fun (x, i) =>
        key x ∉ seen ∧ ∀ y ∈ items.take i, key y ≠ key x).map Prod.fst := by
  fun_induction distinctFrom key seen items with
  | case1 => rfl
  | case2 seen y rest hy ih =>
      -- an item with a key that was seen keeps no later one away
      rw [ih, List.zipIdx_cons', List.filter_cons_of_neg (by simp [hy]), List.filter_map,
        List.map_map]
      refine congrArg₂ _ rfl (List.filter_congr fun e _ => decide_eq_decide.mpr ?_)
      have hne : key e.1 ∉ seen → key y ≠ key e.1 := fun hnew heq => hnew (heq ▸ hy)
      simpa using fun hnew _ => hne hnew
  | case3 seen y rest hy ih =>
      rw [ih, List.zipIdx_cons', List.filter_cons_of_pos (by simp [hy]), List.filter_map,
        List.map_cons, List.map_map]
      refine congrArg₂ _ rfl (congrArg₂ _ rfl
        (List.filter_congr fun e _ => decide_eq_decide.mpr ?_))
      simp [Std.HashSet.mem_insert, and_assoc, and_left_comm]

/-- **Only items that have the key of an earlier one are left out.** -/
theorem distinctBy_eq_firsts (key : α → β) (items : List α) :
    distinctBy key items = firsts key items := by
  simp [distinctBy, distinctFrom_eq, firsts]

lemma forall₂_distinctFrom {γ : Type} {key' : γ → β} {R : α → γ → Prop}
    (hkey : ∀ x y, R x y → key x = key' y) {xs : List α} {ys : List γ} (h : List.Forall₂ R xs ys) :
    ∀ seen : Std.HashSet β,
      List.Forall₂ R (distinctFrom key seen xs) (distinctFrom key' seen ys) := by
  induction h with
  | nil => exact fun _ => .nil
  | @cons x y xs ys hxy _ ih =>
      intro seen
      rw [distinctFrom, distinctFrom, ← hkey x y hxy]
      by_cases hseen : key x ∈ seen
      · rw [if_pos hseen, if_pos hseen]
        exact ih seen
      · rw [if_neg hseen, if_neg hseen]
        exact .cons hxy (ih _)

/-- Of corresponding lists with the same keys, corresponding items are kept. -/
theorem forall₂_distinctBy {γ : Type} {key' : γ → β} {R : α → γ → Prop}
    (hkey : ∀ x y, R x y → key x = key' y) {xs : List α} {ys : List γ} (h : List.Forall₂ R xs ys) :
    List.Forall₂ R (distinctBy key xs) (distinctBy key' ys) :=
  forall₂_distinctFrom hkey h ∅

/-! ## Sorting -/

/-- Sorting by a key that differs from element to element. -/
lemma pairwise_mergeSort_of_key {α β : Type} [LinearOrder β] (key : α → β) {le : α → α → Bool}
    (hle : ∀ x y, le x y = true ↔ key x ≤ key y) {l : List α}
    (hkey : l.Pairwise fun x y => key x ≠ key y) :
    (l.mergeSort le).Pairwise fun x y => key x < key y := by
  have hsorted : (l.mergeSort le).Pairwise fun x y => le x y = true :=
    List.pairwise_mergeSort
      (fun x y z hxy hyz => (hle x z).mpr (((hle x y).mp hxy).trans ((hle y z).mp hyz)))
      (fun x y => by
        rw [Bool.or_eq_true, hle, hle]
        exact le_total _ _) l
  have hdiffer : (l.mergeSort le).Pairwise fun x y => key x ≠ key y :=
    (List.mergeSort_perm l le).symm.pairwise hkey fun h => h.symm
  exact (hsorted.and hdiffer).imp fun h => lt_of_le_of_ne ((hle _ _).mp h.1) h.2

end ClassAtlas
