import ClassAtlas.Proofs.Batch.Scopes
import ClassAtlas.Proofs.Linker.Assignability
import ClassAtlas.Proofs.Linker.Finished
import ClassAtlas.Proofs.Linker.GenericArrays

/-!
# What generic arrays erase to

A generic array erases to the class that it was linked with.  For the types of superclasses,
interfaces and members this is the array of what the component erases to.  In the bound of a
variable the component may lead through the variable itself, or through a later one, which had no
bounds when the bound was linked: then it was taken to erase to `java.lang.Object`.

* `Atlas.IsArrayOf` — a class is the array of another one.
* `isArrayOf_erasure_genericArray` — **what a generic array erases to**.
* `not_isArrayOf_selfBounded` — in the bound of a variable it need not be the array of what the
  component erases to.
-/

namespace ClassAtlas

namespace Atlas

variable {a : Atlas}

/-- A class is the array of another one, and no other class is. -/
structure IsArrayOf (a : Atlas) (array c : ClassId) : Prop where
  component : (a.cls array).component = some c
  type : (a.cls array).type = .array (a.cls c).type
  unique : ∀ x, (a.cls x).component = some c → x = array

/-- A class with a component is the array of it. -/
lemma Named.isArrayOf (ha : a.Named) {array c : ClassId}
    (h : (a.cls array).component = some c) : a.IsArrayOf array c := by
  have harray : ∀ x, (a.cls x).component = some c →
      x.index < a.classes.size ∧ (a.cls x).type = .array (a.cls c).type := by
    intro x hx
    have hlt : x.index < a.classes.size := by
      by_contra hnot
      rw [cls_eq_default (not_lt.mp hnot)] at hx
      cases hx
    rcases ha.composed x hlt with ⟨hnone, -⟩ | ⟨d, hd, -, htype⟩
    · rw [hnone] at hx
      cases hx
    · rw [hd, Option.some_inj] at hx
      rw [← hx]
      exact ⟨hlt, htype⟩
  refine ⟨h, (harray array h).2, fun x hx => ?_⟩
  refine ha.name_inj (harray x hx).1 (harray array h).1 (congrArg Descriptor.name ?_)
  rw [(harray x hx).2, (harray array h).2]

end Atlas

namespace Linker

/-- **A generic array erases to the array of what its component erases to**, in superclasses,
interfaces and the signatures of members.  In the bounds of a variable the component is erased as if
this variable and the later ones had no bounds, which makes no difference unless one of them is met
on the way. -/
theorem isArrayOf_erasure_genericArray {context : ImportContext} {a : Atlas}
    (h : Completed context a) {component type : TypeRef} {array : ClassId}
    (hinside : TypeRef.Inside (.genericArray component array) type) :
    (a.Signs type →
      a.IsArrayOf (a.erasure (.genericArray component array)) (a.erasure component)) ∧
    ∀ v, type ∈ (a.typeVar v).bounds →
      a.IsArrayOf (a.erasure (.genericArray component array)) ((a.before v).erasure component) ∧
      ((∀ w, a.Meets w component → w.index < v.index) →
        a.IsArrayOf (a.erasure (.genericArray component array)) (a.erasure component)) := by
  have hsettled := h.settled
  obtain ⟨t, hvalid, rfl⟩ := h.exists_valid
  have hnamed := hvalid.wf.named
  refine ⟨fun hsigns => hnamed.isArrayOf (hsettled.signatures type hsigns _ _ hinside),
    fun v hv => ?_⟩
  have hbound := hnamed.isArrayOf (hsettled.bounds v type hv _ _ hinside)
  refine ⟨hbound, fun hearlier => ?_⟩
  rw [Atlas.erasure_before hearlier] at hbound
  exact hbound

end Linker

/-! ## A class with a variable that bounds itself -/

namespace Atlas

variable {a : Atlas} {c : ClassId} {type : TypeRef}

/-- A generic array is read by reading its component. -/
lemma Reads.exists_component {sig : TypeSig} (h : a.Reads c (.genericArray sig) type) :
    ∃ component array, type = .genericArray component array ∧ a.Reads c sig component := by
  cases h with
  | genericArray hcomponent => exact ⟨_, _, rfl, hcomponent⟩

/-- A parameterized type is read by reading its arguments. -/
lemma Reads.exists_arguments {raw : String} {sigs : List TypeSig}
    (h : a.Reads c (.parameterized raw sigs) type) :
    ∃ id arguments, type = .parameterized id arguments ∧ a.Denotes raw id ∧
      List.Forall₂ (a.Reads c) sigs arguments := by
  cases h with
  | parameterized hid harguments =>
      exact ⟨_, _, rfl, hid, TypeSig.describesAll_iff.mp harguments⟩

lemma Reads.exists_only {sig : TypeSig} {types : List TypeRef}
    (h : List.Forall₂ (a.Reads c) [sig] types) : ∃ type, types = [type] ∧ a.Reads c sig type := by
  obtain ⟨type, rest, htype, hnil, rfl⟩ := List.forall₂_cons_left_iff.mp h
  rw [List.forall₂_nil_left_iff.mp hnil]
  exact ⟨type, rfl, htype⟩

/-- The only type parameter of a class that nothing encloses: its name stands for it. -/
lemma Follows.exists_variable {r : Record.Class} {p : TypeParam} (h : a.Follows c r)
    (henclosing : r.enclosingClass = none) (hparameters : r.typeParameters = [p]) :
    ∃ v, List.Forall₂ (a.Reads c) p.bounds (a.typeVar v).bounds ∧
      ∀ type, a.Reads c (.variable p.name) type → type = .variable v := by
  have hvars := h.typeParameters
  have hnone := h.enclosingClass
  rw [hparameters] at hvars
  rw [henclosing] at hnone
  obtain ⟨v, _, ⟨hname, hbounds⟩, hnil, hv⟩ := List.forall₂_cons_left_iff.mp hvars
  rw [List.forall₂_nil_left_iff.mp hnil] at hv
  have hfind : Linker.Scope.find? { cls := c } a p.name = some v := by
    simp [Linker.Scope.find?, Linker.typeVars_of_none hnone.eq_none, hv, hname]
  refine ⟨v, hbounds, ?_⟩
  rintro _ (_ | _ | ⟨hw | ⟨hw, -⟩⟩)
  · rw [Option.some.inj (hw.symm.trans hfind)]
  · rw [hfind] at hw
    cases hw

end Atlas

namespace Linker

/-- A class `a.A<T extends a.I<T[], a.B<T>[]>> extends a.B<T[]>`. -/
def selfBounded : Batch :=
  ⟨[{ name := "a.A"
      superclass := some (.parameterized "a.B" [.genericArray (.variable "T")])
      typeParameters := [⟨"T", [.parameterized "a.I"
        [.genericArray (.variable "T"), .genericArray (.parameterized "a.B" [.variable "T"])]]⟩] }]⟩

/-- The types of the class, which say nothing about the classes that the arrays erase to. -/
lemma exists_selfBounded :
    ∃ (a : Atlas) (c i b b' : ClassId) (v : VarId) (array array' array'' : ClassId),
      Completed selfBounded.context a ∧
      (a.cls c).superclass = some (.parameterized b [.genericArray (.variable v) array]) ∧
      (a.typeVar v).bounds = [.parameterized i [.genericArray (.variable v) array',
        .genericArray (.parameterized b' [.variable v]) array'']] ∧
      (a.cls i).type = .object "a.I" ∧ (a.cls b').type = .object "a.B" ∧
      (a.cls Atlas.object).type = .object "java.lang.Object" := by
  obtain ⟨a, ha, hcompleted⟩ := exists_link selfBounded (by decide +kernel)
  have hname : Registry.Denotes "a.A".toList (.object "a.A") := .className rfl
  obtain ⟨c, -, -, hfollows⟩ :=
    exists_follows (r := selfBounded.classes.head (by decide)) ha rfl hname
  obtain ⟨t, rfl, -, hfinished⟩ := finished_of_link ha
  obtain ⟨v, hreads, hvariable⟩ := hfollows.exists_variable rfl rfl
  -- the superclass
  obtain ⟨_, hsuperclass, hread⟩ := hfollows.superclass.exists_right
  obtain ⟨b, _, rfl, -, harguments⟩ := hread.exists_arguments
  obtain ⟨_, rfl, hargument⟩ := Atlas.Reads.exists_only harguments
  obtain ⟨_, array, rfl, hcomponent⟩ := hargument.exists_component
  rw [hvariable _ hcomponent] at hsuperclass
  -- the bound
  obtain ⟨_, hbounds, hbound⟩ := Atlas.Reads.exists_only hreads
  obtain ⟨i, _, rfl, hi, hpair⟩ := hbound.exists_arguments
  obtain ⟨_, _, hfirst, hrest, rfl⟩ := List.forall₂_cons_left_iff.mp hpair
  obtain ⟨_, rfl, hsecond⟩ := Atlas.Reads.exists_only hrest
  obtain ⟨_, array', rfl, hcomponent'⟩ := hfirst.exists_component
  obtain ⟨_, array'', rfl, hcomponent''⟩ := hsecond.exists_component
  obtain ⟨b', _, rfl, hb', hinner⟩ := hcomponent''.exists_arguments
  obtain ⟨_, rfl, hargument'⟩ := Atlas.Reads.exists_only hinner
  rw [hvariable _ hcomponent', hvariable _ hargument'] at hbounds
  exact ⟨t.atlas, c, i, b, b', v, array, array', array'', hcompleted, hsuperclass, hbounds,
    hi.2.unique (.className rfl), hb'.2.unique (.className rfl), hfinished.topmost⟩

/-- The variable stands for `a.I` in the superclass and for `java.lang.Object` in its own bound.
The other array there has a component that erases without variables. -/
theorem isArrayOf_erasure_genericArray_selfBounded :
    ∃ (a : Atlas) (c i b b' : ClassId) (v : VarId) (array array' array'' : ClassId),
      Completed selfBounded.context a ∧
      (a.cls c).superclass = some (.parameterized b [.genericArray (.variable v) array]) ∧
      (a.typeVar v).bounds = [.parameterized i [.genericArray (.variable v) array',
        .genericArray (.parameterized b' [.variable v]) array'']] ∧
      (a.cls array).type = .array (.object "a.I") ∧
      (a.cls array').type = .array (.object "java.lang.Object") ∧
      (a.cls array'').type = .array (.object "a.B") := by
  obtain ⟨a, c, i, b, b', v, array, array', array'', ha, hsuperclass, hbounds, hi, hb', htop⟩ :=
    exists_selfBounded
  have hafter := Atlas.erasure_of_bounds hbounds
  have hbefore := a.erasure_before_self v
  refine ⟨a, c, i, b, b', v, array, array', array'', ha, hsuperclass, hbounds, ?_, ?_, ?_⟩
  · have harray := (isArrayOf_erasure_genericArray ha (.argument (List.mem_singleton_self _)
      .self)).1 (Or.inl ⟨c, List.mem_append_left _ (Option.mem_toList.mpr hsuperclass)⟩)
    rw [hafter] at harray
    rw [← hi]
    exact harray.type
  · have harray := (isArrayOf_erasure_genericArray ha (.argument (List.mem_cons_self ..)
      .self)).2 v (hbounds ▸ List.mem_singleton_self _)
    rw [hbefore] at harray
    rw [← htop]
    exact harray.1.type
  · have harray := (isArrayOf_erasure_genericArray ha (.argument (List.mem_cons_of_mem _
      (List.mem_singleton_self _)) .self)).2 v (hbounds ▸ List.mem_singleton_self _)
    rw [← hb']
    exact (harray.2 fun w hw => nomatch hw).type

/-- **An array of a variable in the bound of the variable does not erase to the array of what the
variable erases to.** -/
theorem not_isArrayOf_selfBounded :
    ∃ (a : Atlas) (v : VarId) (component bound : TypeRef) (array : ClassId),
      Completed selfBounded.context a ∧ bound ∈ (a.typeVar v).bounds ∧
      TypeRef.Inside (.genericArray component array) bound ∧
      (a.cls (a.erasure component)).type = .object "a.I" ∧
      ¬ a.IsArrayOf (a.erasure (.genericArray component array)) (a.erasure component) := by
  obtain ⟨a, -, i, -, b', v, -, array', array'', ha, -, hbounds, hi, -, htop⟩ :=
    exists_selfBounded
  have hafter := Atlas.erasure_of_bounds hbounds
  have hbefore := a.erasure_before_self v
  have hbound : .parameterized i [.genericArray (.variable v) array',
      .genericArray (.parameterized b' [.variable v]) array''] ∈ (a.typeVar v).bounds := by
    rw [hbounds]
    exact List.mem_singleton_self _
  have hinside : TypeRef.Inside (.genericArray (.variable v) array')
      (.parameterized i [.genericArray (.variable v) array',
        .genericArray (.parameterized b' [.variable v]) array'']) :=
    .argument (List.mem_cons_self ..) .self
  refine ⟨a, v, .variable v, _, array', ha, hbound, hinside, by rw [hafter, hi], fun harray => ?_⟩
  have hcomponent := ha.settled.bounds v _ hbound _ _ hinside
  rw [hbefore] at hcomponent
  have hsame : some Atlas.object = some i := by
    rw [← hafter, ← harray.component]
    exact hcomponent.symm
  rw [Option.some.inj hsame, hi] at htop
  exact absurd htop (by decide)

end Linker

end ClassAtlas
