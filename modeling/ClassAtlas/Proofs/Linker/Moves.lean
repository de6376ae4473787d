import ClassAtlas.Linker.Phases
import ClassAtlas.Proofs.Atlas.Range
import ClassAtlas.Proofs.Linker.Describes
import ClassAtlas.Proofs.Related
import Mathlib.Order.CompletePartialOrder

/-!
# What the steps of linking do

Every step of linking is described in one form, `Moves R F s x Q`: from the state `s` the step `x`
ends in a state that `R` relates to `s`, its answer satisfies `Q` there, and it fails only if `F`,
with a type name that is invalid.

* `Moves.bind`, `Moves.mapM`, `Moves.forM` — steps made of steps.
* `Leads R x` — the same without a start and an answer: from every state, `x` leads along `R`.
* `Grows` — the states that linking names, types, annotations and accesses leads to: the atlas has
  grown, and nothing that was linked before has changed.
* `WF` — what holds of every state of linking.
* `moves_intern`, `moves_linkAnnots` — names and annotations.  `F` is what follows if a name cannot
  be read: taking `False` for it says that the step succeeds.
-/

namespace ClassAtlas.Linker

variable {α β : Type} {R : Linker → Linker → Prop} {F : Prop} {s : Linker}

/-- From `s`, the step leads along `R`; an answer of it satisfies `Q`, and it fails only if `F`,
with a type name that is invalid. -/
def Moves (R : Linker → Linker → Prop) (F : Prop) (s : Linker) (x : LinkM α)
    (Q : α → Linker → Prop) : Prop :=
  match x s with
  | .ok answer t => R s t ∧ Q answer t
  | .error e t => R s t ∧ F ∧ ∃ name, e = .invalidTypeName name

/-! ## Steps made of steps -/

lemma bind_of_ok {x : LinkM α} {f : α → LinkM β} {answer : α} {t : Linker}
    (h : x s = .ok answer t) : (x >>= f) s = f answer t := by
  change EStateM.bind x f s = _
  rw [EStateM.bind, h]

lemma bind_of_error {x : LinkM α} {f : α → LinkM β} {e : ModelError} {t : Linker}
    (h : x s = .error e t) : (x >>= f) s = .error e t := by
  change EStateM.bind x f s = _
  rw [EStateM.bind, h]

lemma Moves.of_ok {x : LinkM α} {Q : α → Linker → Prop} (h : Moves R F s x Q) {answer : α}
    {t : Linker} (hx : x s = .ok answer t) : R s t ∧ Q answer t := by
  rw [Moves, hx] at h
  exact h

lemma Moves.of_error {x : LinkM α} {Q : α → Linker → Prop} (h : Moves R F s x Q) {e : ModelError}
    {t : Linker} (hx : x s = .error e t) : R s t ∧ F ∧ ∃ name, e = .invalidTypeName name := by
  rw [Moves, hx] at h
  exact h

lemma Moves.mono {x : LinkM α} {Q Q' : α → Linker → Prop} (h : Moves R F s x Q)
    (hQ : ∀ answer t, R s t → Q answer t → Q' answer t) : Moves R F s x Q' := by
  unfold Moves at h ⊢
  split <;> rename_i hx <;> rw [hx] at h
  · exact ⟨h.1, hQ _ _ h.1 h.2⟩
  · exact h

lemma Moves.along {R' : Linker → Linker → Prop} {x : LinkM α} {Q : α → Linker → Prop}
    (h : Moves R F s x Q) (hR : ∀ t, R s t → R' s t) : Moves R' F s x Q := by
  unfold Moves at h ⊢
  split <;> rename_i hx <;> rw [hx] at h
  · exact ⟨hR _ h.1, h.2⟩
  · exact ⟨hR _ h.1, h.2⟩

/-- What is known of a step from two sides. -/
lemma Moves.and {R' : Linker → Linker → Prop} {F' : Prop} {x : LinkM α} {Q Q' : α → Linker → Prop}
    (h : Moves R F s x Q) (h' : Moves R' F' s x Q') :
    Moves (R ⊓ R') F s x fun answer t => Q answer t ∧ Q' answer t := by
  unfold Moves at h h' ⊢
  split <;> rename_i hx <;> rw [hx] at h h'
  · exact ⟨⟨h.1, h'.1⟩, h.2, h'.2⟩
  · exact ⟨⟨h.1, h'.1⟩, h.2⟩

/-- A step that cannot fail leads along all that follows from its answer. -/
lemma Moves.of_sure {R' : Linker → Linker → Prop} {x : LinkM α} {Q Q' : α → Linker → Prop}
    (h : Moves R False s x Q) (hQ : ∀ answer t, R s t → Q answer t → R' s t ∧ Q' answer t) :
    Moves R' F s x Q' := by
  unfold Moves at h ⊢
  split <;> rename_i hx <;> rw [hx] at h
  · exact hQ _ _ h.1 h.2
  · exact h.2.1.elim

/-- A step that does from `s` what another one does from `t`. -/
lemma Moves.from_state {R' : Linker → Linker → Prop} {x y : LinkM α} {Q : α → Linker → Prop}
    {t : Linker} (h : Moves R F t y Q) (hxy : x s = y t) (hR : ∀ u, R t u → R' s u) :
    Moves R' F s x Q := by
  unfold Moves at h ⊢
  rw [hxy]
  split <;> rename_i hy <;> rw [hy] at h
  · exact ⟨hR _ h.1, h.2⟩
  · exact ⟨hR _ h.1, h.2⟩

lemma moves_get_bind {f : Linker → LinkM α} {Q : α → Linker → Prop} (h : Moves R F s (f s) Q) :
    Moves R F s (get >>= f) Q :=
  h

lemma moves_modifyAtlas {change : Atlas → Atlas} {Q : Unit → Linker → Prop}
    (hR : R s { s with atlas := change s.atlas }) (hQ : Q () { s with atlas := change s.atlas }) :
    Moves R F s (modifyAtlas change) Q :=
  ⟨hR, hQ⟩

lemma moves_addToAtlas {add : Atlas → α × Atlas} {Q : α → Linker → Prop}
    (hR : R s { s with atlas := (add s.atlas).2 })
    (hQ : Q (add s.atlas).1 { s with atlas := (add s.atlas).2 }) :
    Moves R F s (addToAtlas add) Q :=
  ⟨hR, hQ⟩

/-- Two changes are made as one, where what holds before and after does not hold in between. -/
lemma moves_modifyAtlas_modify {change : Atlas → Atlas} {f : Linker → Linker}
    {Q : PUnit → Linker → Prop}
    (hR : R s (f { s with atlas := change s.atlas }))
    (hQ : ∀ t, t = f { s with atlas := change s.atlas } → Q ⟨⟩ t) :
    Moves R F s (modifyAtlas change >>= fun _ => modify f) Q :=
  ⟨hR, hQ _ rfl⟩

/-- The state that a step ends in, whether it fails or not. -/
def after (x : LinkM α) (s : Linker) : Linker :=
  match x s with
  | .ok _ t => t
  | .error _ t => t

lemma after_of_ok {x : LinkM α} {answer : α} {t : Linker} (h : x s = .ok answer t) :
    after x s = t := by
  rw [after, h]

lemma after_of_error {x : LinkM α} {e : ModelError} {t : Linker} (h : x s = .error e t) :
    after x s = t := by
  rw [after, h]

lemma Moves.after {x : LinkM α} {Q : α → Linker → Prop} (h : Moves R F s x Q) :
    R s (after x s) := by
  rcases hx : x s with ⟨answer, t⟩ | ⟨e, t⟩
  · rw [after_of_ok hx]
    exact (h.of_ok hx).1
  · rw [after_of_error hx]
    exact (h.of_error hx).1

/-- The step leads along `R` from every state, whether it fails or not. -/
def Leads (R : Linker → Linker → Prop) (x : LinkM α) : Prop :=
  ∀ s, R s (after x s)

section Preorder

variable [IsPreorder Linker R]

instance (R' : Linker → Linker → Prop) [IsPreorder Linker R'] : IsPreorder Linker (R ⊓ R') where
  refl s := ⟨refl_of R s, refl_of R' s⟩
  trans _ _ _ h h' := ⟨trans_of R h.1 h'.1, trans_of R' h.2 h'.2⟩

lemma moves_pure {answer : α} {Q : α → Linker → Prop} (h : Q answer s) :
    Moves R F s (pure answer) Q :=
  ⟨refl_of R s, h⟩

lemma Moves.bind {x : LinkM α} {f : α → LinkM β} {Q : α → Linker → Prop} {Q' : β → Linker → Prop}
    (h : Moves R F s x Q) (hf : ∀ answer t, R s t → Q answer t → Moves R F t (f answer) Q') :
    Moves R F s (x >>= f) Q' := by
  rcases hx : x s with ⟨answer, t⟩ | ⟨e, t⟩
  · obtain ⟨hR, hQ⟩ := h.of_ok hx
    have hnext := hf answer t hR hQ
    unfold Moves at hnext ⊢
    rw [bind_of_ok hx]
    rcases hfx : f answer t with ⟨b, u⟩ | ⟨e, u⟩ <;> rw [hfx] at hnext
    · exact ⟨trans_of R hR hnext.1, hnext.2⟩
    · exact ⟨trans_of R hR hnext.1, hnext.2⟩
  · unfold Moves
    rw [bind_of_error hx]
    exact h.of_error hx

/-- A step that is known by a finer relation, and what follows. -/
lemma Moves.bind_along {R' : Linker → Linker → Prop} {x : LinkM α} {f : α → LinkM β}
    {Q : α → Linker → Prop} {Q' : β → Linker → Prop} (h : Moves R' F s x Q)
    (hR : ∀ t, R' s t → R s t)
    (hf : ∀ answer t, R' s t → Q answer t → Moves R F t (f answer) Q') :
    Moves R F s (x >>= f) Q' := by
  have hboth : Moves R' F s x fun answer t => R' s t ∧ Q answer t :=
    h.mono fun _ _ => And.intro
  exact (hboth.along hR).bind fun answer t _ hQ => hf answer t hQ.1 hQ.2

/-- A step for each item of a list.  What holds of an item and its answer has to stay true. -/
lemma Moves.mapM {l : List α} {f : α → LinkM β} {Q : α → β → Linker → Prop}
    (hstable : ∀ x y t u, R s t → Q x y t → R t u → Q x y u)
    (h : ∀ x ∈ l, ∀ t, R s t → Moves R F t (f x) (Q x)) :
    Moves R F s (l.mapM f) fun ys t => List.Forall₂ (fun x y => Q x y t) l ys := by
  induction l generalizing s with
  | nil => exact moves_pure List.Forall₂.nil
  | cons x l ih =>
      rw [List.mapM_cons]
      refine (h x (List.mem_cons_self ..) s (refl_of R s)).bind fun y t hst hy => ?_
      have hrest := ih (fun x y u v htu => hstable x y u v (trans_of R hst htu))
        fun x hx u htu => h x (List.mem_cons_of_mem _ hx) u (trans_of R hst htu)
      refine hrest.bind fun ys u htu hys => moves_pure ?_
      exact List.Forall₂.cons (hstable x y t u hst hy htu) hys

lemma forM_eq_mapM (l : List α) (f : α → LinkM PUnit) :
    l.forM f = l.mapM f >>= fun _ => pure ⟨⟩ := by
  induction l with
  | nil => rfl
  | cons x l ih =>
      change (f x >>= fun _ => l.forM f) = _
      rw [ih, List.mapM_cons]
      simp only [bind_assoc, pure_bind]

/-- A step for each item of a list, one after the other. -/
lemma Moves.forM {l : List α} {f : α → LinkM PUnit}
    (h : ∀ x ∈ l, ∀ t, R s t → Moves R F t (f x) fun _ _ => True) :
    Moves R F s (l.forM f) fun _ _ => True := by
  rw [forM_eq_mapM]
  exact (Moves.mapM (fun _ _ _ _ _ _ _ => trivial) h).bind fun _ _ _ _ => moves_pure trivial

/-! ### From every state -/

lemma leads_pure (answer : α) : Leads R (pure answer : LinkM α) :=
  fun s => refl_of R s

lemma leads_get : Leads R (get : LinkM Linker) :=
  fun s => refl_of R s

lemma leads_throw (e : ModelError) : Leads R (throw e : LinkM α) :=
  fun s => refl_of R s

lemma Leads.bind {x : LinkM α} {f : α → LinkM β} (hx : Leads R x) (hf : ∀ y, Leads R (f y)) :
    Leads R (x >>= f) := by
  intro s
  have h := hx s
  rcases hxs : x s with ⟨y, t⟩ | ⟨e, t⟩
  · rw [after_of_ok hxs] at h
    rw [Linker.after, bind_of_ok hxs]
    exact trans_of R h (hf y t)
  · rw [after_of_error hxs] at h
    rw [after_of_error (bind_of_error hxs)]
    exact h

lemma Leads.mapM {l : List α} {f : α → LinkM β} (h : ∀ x, Leads R (f x)) :
    Leads R (l.mapM f) := by
  induction l with
  | nil => exact leads_pure _
  | cons x l ih =>
      rw [List.mapM_cons]
      exact (h x).bind fun _ => ih.bind fun _ => leads_pure _

lemma Leads.forM {l : List α} {f : α → LinkM PUnit} (h : ∀ x, Leads R (f x)) :
    Leads R (l.forM f) := by
  rw [forM_eq_mapM]
  exact (Leads.mapM h).bind fun _ => leads_pure _

lemma leads_nameOf (id : ClassId) : Leads R (nameOf id) :=
  leads_get.bind fun _ => leads_pure _

end Preorder

/-! ## Rows of steps that touch different things

`R A` relates a state to a later one in which nothing but `A` was touched.  What a step establishes
for its item stays true while the steps for the other items run.
-/

section Disjoint

variable {κ : Type} {R : Set κ → Linker → Linker → Prop} [∀ A, IsPreorder Linker (R A)]

lemma Moves.mapM_disjoint (hmono : ∀ A B t u, A ⊆ B → R A t u → R B t u)
    {l : List α} {f : α → LinkM β} {touch : α → Set κ} {P : α → β → Linker → Prop}
    (hdisjoint : l.Pairwise fun x y => Disjoint (touch x) (touch y))
    (hstable : ∀ x y t u A, R Set.univ s t → P x y t → R A t u → Disjoint (touch x) A → P x y u)
    (h : ∀ x ∈ l, ∀ t A, R A s t → Disjoint (touch x) A → Moves (R (touch x)) F t (f x) (P x)) :
    Moves (R (⋃ x ∈ l, touch x)) F s (l.mapM f) fun ys t =>
      List.Forall₂ (fun x y => P x y t) l ys := by
  induction l generalizing s with
  | nil => exact moves_pure List.Forall₂.nil
  | cons x l ih =>
      rw [List.mapM_cons]
      obtain ⟨hx, hl⟩ := List.pairwise_cons.mp hdisjoint
      have hhead := h x (List.mem_cons_self ..) s ∅ (refl_of _ s) (Set.disjoint_empty _)
      have hsub : touch x ⊆ ⋃ y ∈ x :: l, touch y :=
        Set.subset_biUnion_of_mem (List.mem_cons_self ..)
      refine hhead.bind_along (fun t => hmono _ _ _ _ hsub) fun y t hst hy => ?_
      have hst' := hmono _ _ _ _ (Set.subset_univ _) hst
      have hrest := ih hl (fun x y u v A htu => hstable x y u v A (trans_of _ hst' htu))
        fun x' hx' u A htu hA => h x' (List.mem_cons_of_mem _ hx') u (touch x ∪ A)
          (trans_of _ (hmono _ _ _ _ Set.subset_union_left hst)
            (hmono _ _ _ _ Set.subset_union_right htu))
          (Set.disjoint_union_right.mpr ⟨(hx x' hx').symm, hA⟩)
      have hsub' : (⋃ y ∈ l, touch y) ⊆ ⋃ y ∈ x :: l, touch y :=
        Set.biUnion_subset_biUnion_left fun _ => List.mem_cons_of_mem _
      have hapart : Disjoint (touch x) (⋃ y ∈ l, touch y) :=
        Set.disjoint_iUnion₂_right.mpr fun y hy => hx y hy
      refine ((hrest.mono fun ys u htu hys => ?_).along fun u => hmono _ _ _ _ hsub').bind
        fun ys u _ hys => moves_pure hys
      exact List.Forall₂.cons (hstable x y t u _ hst' hy htu hapart) hys

lemma Moves.forM_disjoint (hmono : ∀ A B t u, A ⊆ B → R A t u → R B t u)
    {l : List α} {f : α → LinkM PUnit} {touch : α → Set κ} {P : α → Linker → Prop}
    (hdisjoint : l.Pairwise fun x y => Disjoint (touch x) (touch y))
    (hstable : ∀ x t u A, R Set.univ s t → P x t → R A t u → Disjoint (touch x) A → P x u)
    (h : ∀ x ∈ l, ∀ t A, R A s t → Disjoint (touch x) A →
      Moves (R (touch x)) F t (f x) fun _ => P x) :
    Moves (R (⋃ x ∈ l, touch x)) F s (l.forM f) fun _ t => ∀ x ∈ l, P x t := by
  rw [forM_eq_mapM]
  refine (Moves.mapM_disjoint (P := fun x _ t => P x t) hmono hdisjoint
    (fun x _ => hstable x) h).bind fun _ t _ hall => moves_pure ?_
  intro x hx
  obtain ⟨_, -, hxt⟩ := hall.exists_right hx
  exact hxt

end Disjoint

/-! ## Growing -/

/-- A type variable that is used without being declared has no bounds, and the name and the owner it
is used for. -/
structure Loose (a : Atlas) (entry : (VarOwner × String) × VarId) : Prop where
  taken : entry.2.index < a.typeVars.size
  unbounded : (a.typeVar entry.2).bounds = []
  owner : (a.typeVar entry.2).owner = entry.1.1
  name : (a.typeVar entry.2).name = entry.1.2

lemma Loose.of_typeVar {a a' : Atlas} {entry : (VarOwner × String) × VarId} (h : Loose a entry)
    (hsize : a.typeVars.size ≤ a'.typeVars.size)
    (heq : a'.typeVar entry.2 = a.typeVar entry.2) : Loose a' entry where
  taken := h.taken.trans_le hsize
  unbounded := heq ▸ h.unbounded
  owner := heq ▸ h.owner
  name := heq ▸ h.name

lemma Loose.grows {a a' : Atlas} {entry : (VarOwner × String) × VarId} (h : Loose a entry)
    (hgrows : a.Grows a') : Loose a' entry :=
  h.of_typeVar hgrows.typeVarsSize (hgrows.typeVar _ h.taken)

/-- A state and a later one: the atlas has grown, and a type variable that is used without being
declared belongs to what was added. -/
structure Grows (s t : Linker) : Prop where
  context : t.context = s.context
  phase : t.phase = s.phase
  pending : t.pending = s.pending
  atlas : s.atlas.Grows t.atlas
  named : s.atlas.Named → t.atlas.Named
  kept : s.undeclared ⊆ t.undeclared
  undeclared : ∀ entry ∈ t.undeclared, entry ∈ s.undeclared ∨
    s.atlas.typeVars.size ≤ entry.2.index ∧ Loose t.atlas entry

lemma Grows.refl (s : Linker) : Grows s s where
  context := rfl
  phase := rfl
  pending := rfl
  atlas := Atlas.Grows.refl _
  named h := h
  kept := List.Subset.refl _
  undeclared _ h := Or.inl h

lemma Grows.trans {s t u : Linker} (h : Grows s t) (h' : Grows t u) : Grows s u where
  context := h'.context.trans h.context
  phase := h'.phase.trans h.phase
  pending := h'.pending.trans h.pending
  atlas := h.atlas.trans h'.atlas
  named hs := h'.named (h.named hs)
  kept := List.Subset.trans h.kept h'.kept
  undeclared entry hu := by
    rcases h'.undeclared entry hu with ht | ⟨hlo, hloose⟩
    · rcases h.undeclared entry ht with hs | ⟨hlo, hloose⟩
      · exact Or.inl hs
      · exact Or.inr ⟨hlo, hloose.grows h'.atlas⟩
    · exact Or.inr ⟨h.atlas.typeVarsSize.trans hlo, hloose⟩

instance : IsPreorder Linker Grows where
  refl := Grows.refl
  trans _ _ _ := Grows.trans

/-- What holds of every state of linking: classes and names belong together, positions in types are
taken, and variables that are used without being declared have no bounds. -/
structure WF (s : Linker) : Prop where
  named : s.atlas.Named
  closed : s.atlas.Closed
  undeclared : ∀ entry ∈ s.undeclared, Loose s.atlas entry

lemma WF.withPhase (hs : s.WF) (p : Phase) : WF { s with phase := p } :=
  ⟨hs.named, hs.closed, hs.undeclared⟩

theorem Grows.wf {t : Linker} (h : Grows s t) (hs : s.WF) : t.WF where
  named := h.named hs.named
  closed := hs.closed.grows h.atlas
  undeclared entry hentry := by
    rcases h.undeclared entry hentry with hold | ⟨-, hloose⟩
    · exact (hs.undeclared entry hold).grows h.atlas
    · exact hloose

/-- Growing of the atlas alone. -/
lemma Grows.of_atlas {a : Atlas} (h : s.atlas.Grows a) (hnamed : s.atlas.Named → a.Named) :
    Grows s { s with atlas := a } where
  context := rfl
  phase := rfl
  pending := rfl
  atlas := h
  named := hnamed
  kept := List.Subset.refl _
  undeclared _ h := Or.inl h

/-! ## Names -/

/-- Interning a name either succeeds, and the name is known, or it cannot be read. -/
lemma moves_intern_of {name : String} (hF : (¬ ∃ id a, s.atlas.intern name = .ok (id, a)) → F) :
    Moves Grows F s (intern name) fun id t => t.atlas.names.get? name = some id := by
  unfold intern
  refine moves_get_bind ?_
  rcases h : s.atlas.intern name with e | ⟨id, a⟩
  · exact ⟨Grows.refl s, hF (by simp [h]), Atlas.intern_eq_error h⟩
  · exact ⟨Grows.of_atlas (Atlas.grows_intern h) fun hs => hs.intern h, Atlas.names_intern h⟩

theorem moves_intern {name : String} (hF : Registry.readable name.toList = false → F) :
    Moves Grows F s (intern name) fun id t => t.atlas.names.get? name = some id := by
  refine moves_intern_of fun hfail => hF ?_
  by_contra hreadable
  exact hfail (Atlas.intern_isOk (Bool.eq_true_of_not_eq_false hreadable) _)

lemma moves_mapM_intern {names : List String}
    (hF : ∀ n ∈ names, Registry.readable n.toList = false → F) :
    Moves Grows F s (names.mapM intern)
      fun ids t => List.Forall₂ (fun n id => t.atlas.names.get? n = some id) names ids :=
  Moves.mapM (fun n id _ _ _ h htu => htu.atlas.names n id h)
    fun n hn _ _ => moves_intern (hF n hn)

/-- The variable that was added to a state. -/
structure Added (s : Linker) (name : String) (owner : VarOwner) (v : VarId) (t : Linker) :
    Prop where
  last : v.index = s.atlas.typeVars.size
  size : t.atlas.typeVars.size = s.atlas.typeVars.size + 1
  name : (t.atlas.typeVar v).name = name
  owner : (t.atlas.typeVar v).owner = owner
  undeclared : t.undeclared = s.undeclared

lemma moves_addVariable (name : String) {owner : VarOwner}
    (howner : owner.Within s.atlas.extent) :
    Moves Grows F s (addToAtlas fun a => a.addVariable name owner) (Added s name owner) := by
  refine moves_addToAtlas ?_ ⟨rfl, by simp [Atlas.addVariable], ?_, ?_, rfl⟩
  · exact Grows.of_atlas (Atlas.grows_addVariable name howner) Atlas.Named.addVariable
  · simp [Atlas.addVariable, Atlas.typeVar]
  · simp [Atlas.addVariable, Atlas.typeVar]

/-! ## Annotations -/

/-- A name is known to stand for a class. -/
def Known (t : Linker) (name : String) (id : ClassId) : Prop :=
  t.atlas.names.get? name = some id

lemma Known.grows {t u : Linker} (htu : Grows t u) (name : String) (id : ClassId)
    (h : Known t name id) : Known u name id :=
  htu.atlas.names name id h

/-- The classes of an annotation that a record describes are there. -/
lemma within_of_describes {t : Linker} (ht : t.WF) {element : Element} {r : Record.Annot}
    {x : Annot} (h : r.Describes (Known t) element x) (helement : element.Within t.atlas.extent) :
    x.Within t.atlas.extent where
  type := ht.named.inRange h.type
  element := h.element ▸ helement
  values c hc := by
    obtain ⟨name, -, hname⟩ := h.properties.forall₂_types.exists_left hc
    exact ht.named.inRange hname

/-- The classes of annotations that records describe are there. -/
lemma forall_within_of_describes {t : Linker} (ht : t.WF) {element : Element}
    {records : List Record.Annot} {annotations : List Annot}
    (h : List.Forall₂ (Record.Annot.Describes (Known t) element) records annotations)
    (helement : element.Within t.atlas.extent) : ∀ x ∈ annotations, x.Within t.atlas.extent := by
  intro x hx
  obtain ⟨r, -, hr⟩ := h.exists_left hx
  exact within_of_describes ht hr helement

mutual

lemma moves_linkValue : ∀ (value : Record.AnnotValue) (s : Linker),
    (∀ n ∈ value.names, Registry.readable n.toList = false → F) →
    Moves Grows F s (linkValue value) fun linked t => value.Describes (Known t) linked
  | .cls typeName, s, hF => by
      rw [linkValue]
      exact (moves_intern (hF typeName (by simp [Record.AnnotValue.names]))).bind
        fun _ _ _ h => moves_pure (.cls h)
  | .enumConstant enumType name, s, hF => by
      rw [linkValue]
      exact (moves_intern (hF enumType (by simp [Record.AnnotValue.names]))).bind
        fun _ _ _ h => moves_pure (.enumConstant h name)
  | .nested type properties, s, hF => by
      rw [linkValue]
      refine (moves_intern (hF type (by simp [Record.AnnotValue.names]))).bind fun id t _ hid => ?_
      exact (moves_linkProperties properties t fun n hn =>
        hF n (by simp [Record.AnnotValue.names, hn])).bind fun _ u htu h =>
          moves_pure (.nested (Known.grows htu _ _ hid) h)
  | .array items, s, hF => by
      rw [linkValue]
      exact (moves_linkValues items s fun n hn =>
        hF n (by simp [Record.AnnotValue.names, hn])).bind fun _ _ _ h => moves_pure (.array h)
  | .boolean value, s, _ => moves_pure (.boolean value)
  | .byte value, s, _ => moves_pure (.byte value)
  | .char value, s, _ => moves_pure (.char value)
  | .short value, s, _ => moves_pure (.short value)
  | .int value, s, _ => moves_pure (.int value)
  | .long value, s, _ => moves_pure (.long value)
  | .float value, s, _ => moves_pure (.float value)
  | .double value, s, _ => moves_pure (.double value)
  | .string value, s, _ => moves_pure (.string value)

lemma moves_linkProperties : ∀ (properties : List (String × Record.AnnotValue)) (s : Linker),
    (∀ n ∈ Record.AnnotValue.namesInProperties properties,
      Registry.readable n.toList = false → F) →
    Moves Grows F s (linkProperties properties) fun linked t =>
      Record.PropertiesDescribe (Known t) properties linked
  | [], s, _ => by
      rw [linkProperties]
      exact moves_pure .nil
  | (name, value) :: rest, s, hF => by
      rw [linkProperties]
      refine (moves_linkValue value s fun n hn =>
        hF n (by simp [Record.AnnotValue.namesInProperties, hn])).bind fun _ t _ hvalue => ?_
      exact (moves_linkProperties rest t fun n hn =>
        hF n (by simp [Record.AnnotValue.namesInProperties, hn])).bind
        fun _ u htu hrest => moves_pure (.cons (hvalue.imp (Known.grows htu)) hrest)

lemma moves_linkValues : ∀ (values : List Record.AnnotValue) (s : Linker),
    (∀ n ∈ Record.AnnotValue.namesIn values, Registry.readable n.toList = false → F) →
    Moves Grows F s (linkValues values) fun linked t =>
      Record.ValuesDescribe (Known t) values linked
  | [], s, _ => by
      rw [linkValues]
      exact moves_pure .nil
  | value :: rest, s, hF => by
      rw [linkValues]
      refine (moves_linkValue value s fun n hn =>
        hF n (by simp [Record.AnnotValue.namesIn, hn])).bind fun _ t _ hvalue => ?_
      exact (moves_linkValues rest t fun n hn =>
        hF n (by simp [Record.AnnotValue.namesIn, hn])).bind
        fun _ u htu hrest => moves_pure (.cons (hvalue.imp (Known.grows htu)) hrest)

end

/-- **Linking annotations gives annotations that the records describe**, and fails only if one of
their names cannot be read. -/
theorem moves_linkAnnots (element : Element) {records : List Record.Annot}
    (hF : ∀ n ∈ records.flatMap Record.Annot.names, Registry.readable n.toList = false → F) :
    Moves Grows F s (linkAnnots element records) fun annotations t =>
      List.Forall₂ (Record.Annot.Describes (Known t) element) records annotations := by
  refine Moves.mapM (fun _ _ _ _ _ h htu => h.imp (Known.grows htu)) fun r hr t _ => ?_
  have hnames : ∀ n ∈ r.names, Registry.readable n.toList = false → F :=
    fun n hn => hF n (List.mem_flatMap_of_mem hr hn)
  refine (moves_intern (hnames r.type (by simp [Record.Annot.names]))).bind fun id u _ hid => ?_
  exact (moves_linkProperties r.properties u fun n hn =>
    hnames n (by simp [Record.Annot.names, hn])).bind fun _ v huv hproperties =>
      moves_pure ⟨Known.grows huv _ _ hid, rfl, hproperties⟩

end ClassAtlas.Linker
