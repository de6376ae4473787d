import ClassAtlas.Proofs.Atlas.Range

/-!
# Inside arrays

A component comes before its array.  So the chain of components of a class has an end, which is what
is inside all array layers, and the number of classes is enough to come there.

* `Innermost` — the end of the chain of components of a class.
* `Named.baseComponent_eq_iff` — **the class inside all array layers** is the end of the chain.
* `Named.baseComponent_lt`, `Named.type_baseComponent` — which class that is.
-/

namespace ClassAtlas.Atlas

variable {a : Atlas} {b c : ClassId}

/-- One class is the component of the other. -/
def ComponentOf (a : Atlas) (c b : ClassId) : Prop :=
  (a.cls c).component = some b

/-- The end of the chain of components of a class: it is inside all array layers. -/
def Innermost (a : Atlas) (c b : ClassId) : Prop :=
  Relation.ReflTransGen a.ComponentOf c b ∧ (a.cls b).component = none

lemma innermost_self (h : (a.cls c).component = none) : a.Innermost c c :=
  ⟨.refl, h⟩

lemma Innermost.head {i : ClassId} (h : a.ComponentOf c i) (hi : a.Innermost i b) :
    a.Innermost c b :=
  ⟨.head h hi.1, hi.2⟩

/-- A chain of components has one end. -/
lemma Innermost.unique {i : ClassId} (hb : a.Innermost c b) (hi : a.Innermost c i) : b = i := by
  have hright : Relator.RightUnique a.ComponentOf := fun x y z hy hz =>
    Option.some_inj.mp (hy.symm.trans hz)
  have hend : ∀ {x y : ClassId}, (a.cls x).component = none →
      Relation.ReflTransGen a.ComponentOf x y → x = y := by
    intro x y hx hxy
    rcases hxy.cases_head with heq | ⟨z, hz, -⟩
    · exact heq
    · rw [ComponentOf, hx] at hz
      cases hz
  rcases Relation.ReflTransGen.total_of_right_unique hright hb.1 hi.1 with h | h
  · exact hend hb.2 h
  · exact (hend hi.2 h).symm

lemma baseComponent_of_component (h : (a.cls c).component = none) : a.baseComponent c = c := by
  unfold baseComponent
  cases a.classes.size with
  | zero => rfl
  | succ n => rw [baseWithin, h]

namespace Named

/-- Only arrays have components, and these are classes that come before them. -/
lemma componentOf (ha : a.Named) (h : a.ComponentOf c b) :
    c.index < a.classes.size ∧ b.index < c.index ∧ (a.cls c).type = .array (a.cls b).type := by
  have hc : c.index < a.classes.size := by
    refine lt_of_ne_default (fun node => node.component.toList) ?_
    rw [show (a.cls c).component = some b from h]
    exact List.cons_ne_nil _ _
  rcases ha.composed c hc with ⟨hnone, -⟩ | ⟨i, hi, hlt, htype⟩
  · rw [show (a.cls c).component = some b from h] at hnone
    cases hnone
  · obtain rfl : b = i := Option.some_inj.mp (h.symm.trans hi)
    exact ⟨hc, hlt, htype⟩

/-- A component comes before its array, so there are no more layers than classes before it. -/
lemma innermost_baseWithin (ha : a.Named) :
    ∀ (steps : ℕ) (c : ClassId), c.index < steps → a.Innermost c (a.baseWithin steps c)
  | 0, _, h => absurd h (Nat.not_lt_zero _)
  | steps + 1, c, h => by
      rw [baseWithin]
      cases hcomponent : (a.cls c).component with
      | none => exact innermost_self hcomponent
      | some i =>
          have hlt := (ha.componentOf hcomponent).2.1
          exact .head hcomponent (ha.innermost_baseWithin steps i (by omega))

lemma innermost_baseComponent (ha : a.Named) (c : ClassId) : a.Innermost c (a.baseComponent c) := by
  rcases lt_or_ge c.index a.classes.size with hc | hc
  · exact ha.innermost_baseWithin _ c hc
  · have hnone : (a.cls c).component = none := by
      rw [cls_eq_default hc]
      rfl
    rw [baseComponent_of_component hnone]
    exact innermost_self hnone

/-- **The class inside all array layers** is the end of the chain of components. -/
lemma baseComponent_eq_iff (ha : a.Named) : a.baseComponent c = b ↔ a.Innermost c b :=
  ⟨fun h => h ▸ ha.innermost_baseComponent c, fun h => (ha.innermost_baseComponent c).unique h⟩

lemma index_le (ha : a.Named) (h : a.Innermost c b) : b.index ≤ c.index := by
  obtain ⟨hchain, -⟩ := h
  induction hchain with
  | refl => exact le_rfl
  | tail _ hstep ih => exact (ha.componentOf hstep).2.1.le.trans ih

/-- The end of the chain is of the type inside all array layers. -/
lemma type_eq_base (ha : a.Named) (hc : c.index < a.classes.size) (h : a.Innermost c b) :
    (a.cls b).type = (a.cls c).type.base := by
  have hb := (ha.index_le h).trans_lt hc
  obtain ⟨hchain, hend⟩ := h
  clear hc
  induction hchain using Relation.ReflTransGen.head_induction_on with
  | refl =>
      rcases ha.composed b hb with ⟨-, harray⟩ | ⟨i, hi, -⟩
      · cases htype : (a.cls b).type with
        | array _ =>
            rw [htype] at harray
            cases harray
        | _ => rfl
      · rw [hend] at hi
        cases hi
  | head hstep _ ih =>
      rw [ih, (ha.componentOf hstep).2.2]
      rfl

lemma baseComponent_lt (ha : a.Named) (hc : c.index < a.classes.size) :
    (a.baseComponent c).index < a.classes.size :=
  (ha.index_le (ha.innermost_baseComponent c)).trans_lt hc

lemma type_baseComponent (ha : a.Named) (hc : c.index < a.classes.size) :
    (a.cls (a.baseComponent c)).type = (a.cls c).type.base :=
  ha.type_eq_base hc (ha.innermost_baseComponent c)

/-- The class of the type inside all array layers. -/
lemma baseComponent_eq_of_type (ha : a.Named) (hc : c.index < a.classes.size)
    (hb : b.index < a.classes.size) (h : (a.cls c).type.base = (a.cls b).type) :
    a.baseComponent c = b := by
  refine ha.name_inj (ha.baseComponent_lt hc) hb ?_
  rw [ClassNode.name, ClassNode.name, ha.type_baseComponent hc, h]

end Named

end ClassAtlas.Atlas
