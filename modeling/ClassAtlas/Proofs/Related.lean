import Mathlib.Data.List.Forall2

/-!
# Lists and options that correspond

Facts about `List.Forall₂` and `Option.Rel`, which relate two lists or options element by element.

* `exists_left`, `exists_right` — what an element corresponds to.
* `of_common` — what corresponds to the same corresponds.
* `List.Forall₂.find?` — corresponding lists are searched alike.
-/

/-! ## Lists -/

lemma List.Forall₂.exists_left {α β : Type} {P : α → β → Prop} {xs : List α} {ys : List β}
    (h : List.Forall₂ P xs ys) {y : β} (hy : y ∈ ys) : ∃ x ∈ xs, P x y := by
  induction h with
  | nil => cases hy
  | cons hxy _ ih =>
      rcases List.mem_cons.mp hy with rfl | hy
      · exact ⟨_, List.mem_cons_self .., hxy⟩
      · obtain ⟨x, hx, hxy⟩ := ih hy
        exact ⟨x, List.mem_cons_of_mem _ hx, hxy⟩

lemma List.Forall₂.exists_right {α β : Type} {P : α → β → Prop} {xs : List α} {ys : List β}
    (h : List.Forall₂ P xs ys) {x : α} (hx : x ∈ xs) : ∃ y ∈ ys, P x y :=
  h.flip.exists_left hx

lemma List.Forall₂.imp_mem {α β : Type} {P Q : α → β → Prop} {xs : List α} {ys : List β}
    (h : List.Forall₂ P xs ys) (hPQ : ∀ x ∈ xs, ∀ y ∈ ys, P x y → Q x y) :
    List.Forall₂ Q xs ys := by
  induction h with
  | nil => exact .nil
  | cons hxy _ ih =>
      refine .cons (hPQ _ (List.mem_cons_self ..) _ (List.mem_cons_self ..) hxy) (ih ?_)
      exact fun x hx y hy => hPQ x (List.mem_cons_of_mem _ hx) y (List.mem_cons_of_mem _ hy)

lemma List.Forall₂.map_eq_map {α β γ : Type} {P : α → β → Prop} {f : α → γ} {g : β → γ}
    {xs : List α} {ys : List β} (h : List.Forall₂ P xs ys) (hP : ∀ x y, P x y → g y = f x) :
    ys.map g = xs.map f := by
  induction h with
  | nil => rfl
  | cons hxy _ ih => rw [List.map_cons, List.map_cons, ih, hP _ _ hxy]

/-- What two lists have in common if both correspond to the same one. -/
lemma List.Forall₂.of_common {α β γ : Type} {P : γ → α → Prop} {Q : γ → β → Prop} {zs : List γ}
    {xs : List α} {ys : List β} (h : List.Forall₂ P zs xs) (h' : List.Forall₂ Q zs ys) :
    List.Forall₂ (fun x y => ∃ z ∈ zs, P z x ∧ Q z y) xs ys := by
  induction h generalizing ys with
  | nil =>
      cases h'
      exact .nil
  | cons hx _ ih =>
      cases h' with
      | cons hy hys =>
          refine .cons ⟨_, List.mem_cons_self .., hx, hy⟩ ((ih hys).imp ?_)
          rintro x y ⟨z, hz, hxy⟩
          exact ⟨z, List.mem_cons_of_mem _ hz, hxy⟩

/-- Corresponding lists are searched alike. -/
lemma List.Forall₂.find? {α β : Type} {R : α → β → Prop} {p : α → Bool} {q : β → Bool}
    {xs : List α} {ys : List β} (h : List.Forall₂ R xs ys) (hpq : ∀ x y, R x y → p x = q y) :
    (xs.find? p = none ∧ ys.find? q = none) ∨
      ∃ x y, xs.find? p = some x ∧ ys.find? q = some y ∧ R x y := by
  induction h with
  | nil => exact Or.inl ⟨rfl, rfl⟩
  | @cons x y xs ys hxy _ ih =>
      have heq := hpq x y hxy
      rcases hq : q y
      · rw [hq] at heq
        rwa [List.find?_cons_of_neg (by simp [heq]), List.find?_cons_of_neg (by simp [hq])]
      · rw [hq] at heq
        exact Or.inr ⟨x, y, List.find?_cons_of_pos heq, List.find?_cons_of_pos hq, hxy⟩

/-! ## Options -/

lemma Option.Rel.imp {α β : Type} {P Q : α → β → Prop} {x : Option α} {y : Option β}
    (h : Option.Rel P x y) (hPQ : ∀ a b, P a b → Q a b) : Option.Rel Q x y := by
  cases h with
  | some hab => exact .some (hPQ _ _ hab)
  | none => exact .none

lemma Option.Rel.eq_none {α β : Type} {P : α → β → Prop} {y : Option β}
    (h : Option.Rel P Option.none y) : y = Option.none := by
  cases h
  rfl

lemma Option.Rel.exists_right {α β : Type} {P : α → β → Prop} {a : α} {y : Option β}
    (h : Option.Rel P (Option.some a) y) : ∃ b, y = Option.some b ∧ P a b := by
  cases h with
  | some hab => exact ⟨_, rfl, hab⟩

lemma Option.Rel.exists_left {α β : Type} {P : α → β → Prop} {x : Option α} {b : β}
    (h : Option.Rel P x (Option.some b)) : ∃ a, x = Option.some a ∧ P a b := by
  cases h with
  | some hab => exact ⟨_, rfl, hab⟩

lemma Option.Rel.of_common {α β γ : Type} {P : γ → α → Prop} {Q : γ → β → Prop} {z : Option γ}
    {x : Option α} {y : Option β} (h : Option.Rel P z x) (h' : Option.Rel Q z y) :
    Option.Rel (fun x y => ∃ z, P z x ∧ Q z y) x y := by
  cases h with
  | some hx =>
      cases h' with
      | some hy => exact .some ⟨_, hx, hy⟩
  | none =>
      cases h'
      exact .none

lemma Option.Rel.flip {α β : Type} {P : α → β → Prop} {x : Option α} {y : Option β}
    (h : Option.Rel P x y) : Option.Rel (fun b a => P a b) y x := by
  cases h with
  | some h => exact .some h
  | none => exact .none

lemma Option.Rel.forall₂_toList {α β : Type} {P : α → β → Prop} {x : Option α} {y : Option β}
    (h : Option.Rel P x y) : List.Forall₂ P x.toList y.toList := by
  cases h with
  | some h => exact .cons h .nil
  | none => exact .nil
