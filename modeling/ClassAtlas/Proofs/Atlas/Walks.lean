import ClassAtlas.Proofs.Atlas.Involved

/-!
# Walks through types

`Atlas.involvedClasses` recurses through a type, and opens at most as many variables inside each
other as there are.  Here the recursion is taken apart into single steps, with what is still to be
visited on a stack and with no limit on the number of steps.

* `Walk.next` — one step: the first type on the stack gives way to its parts, a variable that was
  not met before to its bounds.
* `Walk.wellFounded_next` — **no walk goes on for ever**, also not one through bounds that lead back
  to their variable.  A step opens a variable, or it makes the stack smaller.
* `leads_meetTypes` — the recursion is such a walk, so its limit is never what ends it.
* `involvedClasses_exact` — **the walk through a type ends with the classes that it involves, each
  once**.
-/

namespace ClassAtlas

namespace TypeRef

mutual

/-- The number of types that a type is made of. -/
@[simp] def weight : TypeRef → ℕ
  | .cls _ => 1
  | .parameterized _ arguments => weights arguments + 1
  | .variable _ => 1
  | .wildcard upper lower => weights upper + weights lower + 1
  | .genericArray component _ => component.weight + 1

@[simp] def weights : List TypeRef → ℕ
  | [] => 0
  | type :: types => type.weight + weights types

end

@[simp] lemma weights_append (types types' : List TypeRef) :
    weights (types ++ types') = weights types + weights types' := by
  induction types with
  | nil => simp
  | cons type types ih => simp [ih, Nat.add_assoc]

end TypeRef

namespace Atlas

variable {a : Atlas}

/-- A walk that is going on: the types that are still to be visited, the next one first, and what
has been met so far. -/
structure Walk where
  todo : List TypeRef
  met : Met := {}

namespace Walk

/-- The next step of a walk, if it has not come to its end. -/
def next (a : Atlas) : Walk → Option Walk
  | ⟨[], _⟩ => none
  | ⟨.cls id :: todo, met⟩ => some ⟨todo, met.addClass id⟩
  | ⟨.parameterized raw arguments :: todo, met⟩ => some ⟨arguments ++ todo, met.addClass raw⟩
  | ⟨.variable id :: todo, met⟩ =>
    if id ∈ met.typeVars then some ⟨todo, met⟩
    else some ⟨(a.typeVar id).bounds ++ todo, { met with typeVars := met.typeVars ++ [id] }⟩
  | ⟨.wildcard upper lower :: todo, met⟩ => some ⟨upper ++ (lower ++ todo), met⟩
  | ⟨.genericArray component _ :: todo, met⟩ => some ⟨component :: todo, met⟩

/-- One walk is a later state of another one. -/
def Leads (a : Atlas) : Walk → Walk → Prop :=
  Relation.ReflTransGen fun w w' => w.next a = some w'

lemma leads_of_next {w w' w'' : Walk} (h : w.next a = some w') (h' : Leads a w' w'') :
    Leads a w w'' :=
  .head h h'

/-! ## Termination -/

/-- The variables of the atlas that are still to be opened. -/
def unopened (a : Atlas) (w : Walk) : ℕ :=
  (a.varIds.filter fun v => v ∉ w.met.typeVars).card

/-- How much there is on the stack. -/
def size (w : Walk) : ℕ :=
  TypeRef.weights w.todo

/-- **A step opens a variable, or it makes the stack smaller.**  A variable that is not one of the
atlas has no bounds, so opening it only takes it from the stack. -/
lemma measure_next {w w' : Walk} (h : w.next a = some w') :
    Prod.Lex (· < ·) (· < ·) (w'.unopened a, w'.size) (w.unopened a, w.size) := by
  have shrinks : w'.unopened a = w.unopened a → w'.size < w.size →
      Prod.Lex (· < ·) (· < ·) (w'.unopened a, w'.size) (w.unopened a, w.size) := by
    intro hunopened hsize
    rw [hunopened]
    exact .right _ hsize
  match w with
  | ⟨[], met⟩ => cases h
  | ⟨.cls id :: todo, met⟩ =>
      cases h
      exact shrinks (by simp [unopened, Met.typeVars_addClass]) (by simp [size])
  | ⟨.parameterized raw arguments :: todo, met⟩ =>
      cases h
      exact shrinks (by simp [unopened, Met.typeVars_addClass]) (by simp [size])
  | ⟨.wildcard upper lower :: todo, met⟩ =>
      cases h
      exact shrinks rfl (by simp [size]; omega)
  | ⟨.genericArray component erasure :: todo, met⟩ =>
      cases h
      exact shrinks rfl (by simp [size])
  | ⟨.variable id :: todo, met⟩ =>
      rw [next] at h
      split_ifs at h with hseen
      · cases h
        exact shrinks rfl (by simp [size])
      cases h
      by_cases hlive : id ∈ a.varIds
      · have hroom : Search.Room a.varIds _ (id :: met.typeVars) :=
          Search.Room.cons (Nat.lt_succ_self _) hlive hseen
        exact .left _ _ (hroom.mono (by simp))
      · have hbounds : (a.typeVar id).bounds = [] := by
          by_contra hne
          exact hlive (mem_varIds hne)
        refine shrinks (congrArg Finset.card (Finset.filter_congr fun v hv => ?_))
          (by simp [size, hbounds])
        have hne : v ≠ id := fun heq => hlive (heq ▸ hv)
        simp [hne]

/-- **No walk goes on for ever.** -/
theorem wellFounded_next (a : Atlas) : WellFounded fun w' w : Walk => w.next a = some w' := by
  have hlex := WellFounded.prod_lex (wellFounded_lt (α := ℕ)) (wellFounded_lt (α := ℕ))
  exact Subrelation.wf measure_next (InvImage.wf (fun w : Walk => (w.unopened a, w.size)) hlex)

/-! ## No class twice -/

lemma nodup_addClass {met : Met} (h : met.classes.Nodup) (id : ClassId) :
    (met.addClass id).classes.Nodup := by
  unfold Met.addClass
  split_ifs with hid
  · exact h
  · have hconcat := h.concat hid
    rwa [List.concat_eq_append] at hconcat

lemma nodup_next {w w' : Walk} (h : w.next a = some w') (hw : w.met.classes.Nodup) :
    w'.met.classes.Nodup := by
  match w with
  | ⟨[], met⟩ => cases h
  | ⟨.cls id :: todo, met⟩ | ⟨.parameterized id arguments :: todo, met⟩ =>
      cases h
      exact nodup_addClass hw id
  | ⟨.wildcard upper lower :: todo, met⟩ | ⟨.genericArray component erasure :: todo, met⟩ =>
      cases h
      exact hw
  | ⟨.variable id :: todo, met⟩ =>
      rw [next] at h
      split_ifs at h <;> cases h <;> exact hw

lemma Leads.nodup {w w' : Walk} (h : Leads a w w') (hw : w.met.classes.Nodup) :
    w'.met.classes.Nodup := by
  induction h with
  | refl => exact hw
  | tail _ hnext ih => exact nodup_next hnext ih

end Walk

/-! ## The recursion as a walk -/

/-- Opening a variable, at most `n` of them inside each other, is a walk that takes it from the
stack. -/
def WalksVariables (a : Atlas) (n : ℕ) : Prop :=
  ∀ (v : VarId) (met : Met) (todo : List TypeRef), Search.Room a.varIds n met.typeVars →
    Walk.Leads a ⟨.variable v :: todo, met⟩ ⟨todo, a.meetVariable n v met⟩

mutual

lemma leads_meetType {n : ℕ} (hvar : a.WalksVariables n) :
    ∀ (type : TypeRef) (met : Met) (todo : List TypeRef), Search.Room a.varIds n met.typeVars →
      Walk.Leads a ⟨type :: todo, met⟩ ⟨todo, meetType (a.meetVariable n) type met⟩
  | .cls id, met, todo, _ => by
      rw [meetType]
      exact .single rfl
  | .parameterized raw arguments, met, todo, hroom => by
      rw [meetType]
      refine Walk.leads_of_next rfl (leads_meetTypes hvar arguments _ todo fun _ => ?_)
      rwa [Met.typeVars_addClass]
  | .variable v, met, todo, hroom => by
      rw [meetType]
      exact hvar v met todo hroom
  | .wildcard upper lower, met, todo, hroom => by
      rw [meetType]
      have hupper := opens_meetTypes (opens_meetVariable n) upper met fun _ => hroom
      refine Walk.leads_of_next rfl ?_
      exact (leads_meetTypes hvar upper met (lower ++ todo) fun _ => hroom).trans
        (leads_meetTypes hvar lower _ todo fun _ => hroom.mono hupper.within.typeVars)
  | .genericArray component erasure, met, todo, hroom => by
      rw [meetType]
      exact Walk.leads_of_next rfl (leads_meetType hvar component met todo hroom)

lemma leads_meetTypes {n : ℕ} (hvar : a.WalksVariables n) :
    ∀ (types : List TypeRef) (met : Met) (todo : List TypeRef),
      (types ≠ [] → Search.Room a.varIds n met.typeVars) →
      Walk.Leads a ⟨types ++ todo, met⟩ ⟨todo, meetTypes (a.meetVariable n) types met⟩
  | [], met, todo, _ => by
      rw [meetTypes]
      exact .refl
  | type :: types, met, todo, hroom => by
      rw [meetTypes]
      have hroom := hroom (List.cons_ne_nil _ _)
      have htype := opens_meetType (opens_meetVariable n) type met hroom
      exact (leads_meetType hvar type met (types ++ todo) hroom).trans
        (leads_meetTypes hvar types _ todo fun _ => hroom.mono htype.within.typeVars)

end

/-- There is room for every variable that is still to be opened, so the limit is never reached. -/
lemma walksVariables : ∀ n : ℕ, a.WalksVariables n
  | 0, _, _, _, hroom => absurd hroom (Nat.not_lt_zero _)
  | n + 1, v, met, todo, hroom => by
      rw [meetVariable]
      split_ifs with hv
      · exact .single (if_pos hv)
      · refine Walk.leads_of_next (if_neg hv) ?_
        exact leads_meetTypes (walksVariables n) _ _ todo fun hne =>
          (hroom.cons (mem_varIds hne) hv).mono (by simp)

/-- **The walk through a type ends with the classes that it involves, each once.**  No walk goes on
for ever, whatever the bounds of the variables are; the one that starts with the type leads to an
empty stack, with these classes met. -/
theorem involvedClasses_exact (a : Atlas) (type : TypeRef) :
    (WellFounded fun w' w : Walk => w.next a = some w') ∧
    (∃ met, Walk.Leads a ⟨[type], {}⟩ ⟨[], met⟩ ∧ met.classes = a.involvedClasses type) ∧
    (a.involvedClasses type).Nodup ∧
    ∀ c, c ∈ a.involvedClasses type ↔ a.Involves type c := by
  have hwalk : Walk.Leads a ⟨[type], {}⟩
      ⟨[], meetTypes (a.meetVariable (a.typeVars.size + 1)) [type] {}⟩ :=
    leads_meetTypes (walksVariables _) [type] {} [] fun _ => Search.room_nil card_varIds_le
  exact ⟨Walk.wellFounded_next a, ⟨_, hwalk, rfl⟩, hwalk.nodup List.nodup_nil,
    fun _ => mem_involvedClasses⟩

-- The bound `C<T, D>` of `T` leads back to `T`.
example : involvedClasses
    { typeVars := #[⟨⟨0⟩, "T", .cls ⟨1⟩, [.parameterized ⟨3⟩ [.variable ⟨0⟩, .cls ⟨2⟩]]⟩] }
    (.variable ⟨0⟩) = [⟨3⟩, ⟨2⟩] := by
  decide

end Atlas

end ClassAtlas
