import Mathlib.Data.List.Basic

/-!
# Texts with separators

Texts that are glued together at separators can be taken apart again, as long as no separator is
within a part.

* `eq_of_append_cons_first`, `eq_of_append_cons_last` — a text is taken apart at the first or at the
  last separator.
* `intercalate_inj` — a list of texts can be read off the texts with separators between them.
-/

namespace ClassAtlas.Text

variable {α : Type} {sep : α} {x x' y y' : List α}

/-- A text is taken apart at the first separator. -/
lemma eq_of_append_cons_first (hx : sep ∉ x) (hx' : sep ∉ x')
    (h : x ++ sep :: y = x' ++ sep :: y') : x = x' ∧ y = y' := by
  induction x generalizing x' with
  | nil =>
      cases x' with
      | nil => exact ⟨rfl, (List.cons.inj h).2⟩
      | cons c x' => exact absurd (List.cons.inj h).1 (List.ne_of_not_mem_cons hx')
  | cons c x ih =>
      cases x' with
      | nil => exact absurd (List.cons.inj h).1.symm (List.ne_of_not_mem_cons hx)
      | cons c' x' =>
          obtain ⟨rfl, hrest⟩ := List.cons.inj h
          obtain ⟨rfl, rfl⟩ :=
            ih (List.not_mem_of_not_mem_cons hx) (List.not_mem_of_not_mem_cons hx') hrest
          exact ⟨rfl, rfl⟩

/-- A text is taken apart at the last separator. -/
lemma eq_of_append_cons_last (hy : sep ∉ y) (hy' : sep ∉ y')
    (h : x ++ sep :: y = x' ++ sep :: y') : x = x' ∧ y = y' := by
  have hreverse := congrArg List.reverse h
  simp only [List.reverse_append, List.reverse_cons, List.append_assoc, List.singleton_append]
    at hreverse
  obtain ⟨hback, hfront⟩ :=
    eq_of_append_cons_first (by simpa using hy) (by simpa using hy') hreverse
  exact ⟨List.reverse_inj.mp hfront, List.reverse_inj.mp hback⟩

/-- A list of texts can be read off the texts with separators between them, if no separator starts
within a text and no text is empty. -/
lemma intercalate_inj {blank : List α} : ∀ {texts texts' : List (List α)},
    (∀ x ∈ texts, sep ∉ x ∧ x ≠ []) → (∀ x ∈ texts', sep ∉ x ∧ x ≠ []) →
    (sep :: blank).intercalate texts = (sep :: blank).intercalate texts' → texts = texts'
  | [], [], _, _, _ => rfl
  | [], [x'], _, h', heq => absurd heq.symm (by simpa using (h' x' (by simp)).2)
  | [x], [], h, _, heq => absurd heq (by simpa using (h x (by simp)).2)
  | [], _ :: _ :: _, _, _, heq => by simp [List.intercalate_cons_cons] at heq
  | _ :: _ :: _, [], _, _, heq => by simp [List.intercalate_cons_cons] at heq
  | [x], [x'], _, _, heq => by simpa using heq
  | [x], x' :: y' :: rest', h, _, heq => by
      have hsep : sep ∈ x := by
        simp only [List.intercalate_singleton, List.intercalate_cons_cons] at heq
        simp [heq]
      exact absurd hsep (h x (by simp)).1
  | x :: y :: rest, [x'], _, h', heq => by
      have hsep : sep ∈ x' := by
        simp only [List.intercalate_singleton, List.intercalate_cons_cons] at heq
        simp [← heq]
      exact absurd hsep (h' x' (by simp)).1
  | x :: y :: rest, x' :: y' :: rest', h, h', heq => by
      simp only [List.intercalate_cons_cons, List.append_assoc, List.cons_append] at heq
      obtain ⟨rfl, hrest⟩ := eq_of_append_cons_first (h x (by simp)).1 (h' x' (by simp)).1 heq
      rw [intercalate_inj (fun z hz => h z (List.mem_cons_of_mem _ hz))
        (fun z hz => h' z (List.mem_cons_of_mem _ hz)) (List.append_cancel_left hrest)]

end ClassAtlas.Text
