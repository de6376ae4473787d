import Mathlib.Data.List.Nodup
import Mathlib.Data.Prod.Lex
import Mathlib.Data.String.Basic
import ClassAtlas.Dependency.Basic
import ClassAtlas.Proofs.Distinct

/-!
# Sets of dependencies

Dependencies are collected into lists that are sorted and hold no two with the same key.

* `Dependency.Ascending` — a list in strictly ascending order.
* `Dependency.ascending_set`, `Dependency.mem_of_mem_set`, `Dependency.exists_mem_set` — what such a
  list is made of.
* `Dependency.mem_set` — nothing is lost if the key tells the dependencies apart.
-/

namespace ClassAtlas

namespace Dependency

variable {d e : Dependency} {ds : List Dependency}

/-- What dependencies are sorted by. -/
def rank (d : Dependency) : ℕ ×ₗ String ×ₗ ℕ ×ₗ ℕ :=
  toLex (d.line, toLex (d.description, toLex (d.origin.index, d.target.index)))

lemma order_eq_compare (d e : Dependency) : order d e = compare d.rank e.rank := by
  simp only [rank, Prod.Lex.compare_def, compareLex, compareOn, ofLex_toLex]
  rfl

lemma order_eq_lt : order d e = .lt ↔ d.rank < e.rank := by
  rw [order_eq_compare, compare_lt_iff_lt]

lemma isLE_order : (order d e).isLE = true ↔ d.rank ≤ e.rank := by
  rw [order_eq_compare, Ordering.isLE_iff_ne_gt]
  exact compare_le_iff_le

lemma rank_inj : d.rank = e.rank ↔ d.key = e.key := by
  rcases d with ⟨⟨o⟩, ⟨t⟩, _⟩
  rcases e with ⟨⟨o'⟩, ⟨t'⟩, _⟩
  simp [rank, key]

/-- In strictly ascending order. -/
def Ascending (ds : List Dependency) : Prop :=
  ds.Pairwise fun d e => order d e = .lt

lemma Ascending.eq_of_key (h : Ascending ds) (hd : d ∈ ds) (he : e ∈ ds) (hkey : d.key = e.key) :
    d = e := by
  have hnodup : (ds.map rank).Nodup :=
    List.pairwise_map.mpr (h.imp fun hlt => (order_eq_lt.mp hlt).ne)
  exact List.inj_on_of_nodup_map hnodup hd he (rank_inj.mpr hkey)

lemma ascending_set (ds : List Dependency) : Ascending (set ds) := by
  have hkey : (distinctBy key ds).Pairwise fun d e => d.rank ≠ e.rank :=
    (pairwise_distinctBy key ds).imp fun hne heq => hne (rank_inj.mp heq)
  exact (pairwise_mergeSort_of_key rank (fun _ _ => isLE_order) hkey).imp order_eq_lt.mpr

@[simp] lemma set_nil : set [] = [] := by
  simp [set, distinctBy, distinctFrom]

lemma mem_of_mem_set (h : d ∈ set ds) : d ∈ ds :=
  mem_of_mem_distinctBy ((List.mergeSort_perm _ _).mem_iff.mp h)

lemma exists_mem_set (h : d ∈ ds) : ∃ e ∈ set ds, e.key = d.key := by
  obtain ⟨e, he, hkey⟩ : ∃ e ∈ distinctBy key ds, e.key = d.key := exists_mem_distinctBy h
  exact ⟨e, (List.mergeSort_perm _ _).mem_iff.mpr he, hkey⟩

/-- Nothing is lost if the key tells the dependencies apart. -/
lemma mem_set (hkey : ∀ d ∈ ds, ∀ e ∈ ds, d.key = e.key → d = e) : d ∈ set ds ↔ d ∈ ds :=
  (List.mergeSort_perm _ _).mem_iff.trans (mem_distinctBy_of_key hkey)

end Dependency

end ClassAtlas
