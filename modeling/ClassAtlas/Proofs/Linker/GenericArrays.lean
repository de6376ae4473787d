import ClassAtlas.Proofs.Atlas.GenericArrays
import ClassAtlas.Proofs.Linker.Integrity

/-!
# Linking generic arrays

The class that a generic array erases to is asked for when the type is linked, with the bounds that
variables have by then.  They get them in the order in which they were declared, the variables of
classes before there is any other type, the variables of a code unit before its own types.

* `moves_linkType_arrays` — in a type that was just linked, generic arrays are right.
* `moves_linkBounds_arrays` — variables get their bounds in order.
* `moves_hierarchyBody_settles`, `moves_membersBody_settles`, `leads_accessesBody_keepsTypes` — what
  the phases keep, even if they fail.
* `run_arranged` — **generic arrays are right at every moment of a run**, those in bounds as of
  before the bounds.
-/

namespace ClassAtlas

/-- A class that is known under the name of another one and brackets is the array of it. -/
lemma Atlas.Named.component_of_brackets {a : Atlas} (ha : a.Named) {c id : ClassId}
    (hc : c.index < a.classes.size) (h : a.names.get? ((a.cls c).name ++ "[]") = some id) :
    (a.cls id).component = some c := by
  have hid := ha.inRange h
  have htype := ha.type_eq h (Registry.denotes_brackets (ha.proper hc))
  rcases ha.composed id hid with ⟨-, hnot⟩ | ⟨d, hd, hlt, heq⟩
  · rw [htype] at hnot
    cases hnot
  · have hsame : (a.cls d).type = (a.cls c).type := Descriptor.array.inj (heq.symm.trans htype)
    have hdc : d = c := ha.name_inj (hlt.trans hid) hc (congrArg Descriptor.name hsame)
    rw [hd, hdc]

lemma Member.typeParameters_modifyCodeUnit {m : Member} {vars : List VarId} {v : VarId}
    (h : v ∈ (m.modifyCodeUnit fun u => { u with typeParameters := vars }).typeParameters) :
    v ∈ m.typeParameters ∨ v ∈ vars := by
  rcases hbody : m.body with ⟨type, raw⟩ | ⟨kind, unit⟩
  · rw [Member.modifyCodeUnit, hbody] at h
    exact Or.inl h
  · rw [Member.modifyCodeUnit, hbody] at h
    exact Or.inr h

namespace Linker

variable {s t u : Linker}

/-! ## Types -/

lemma Grows.arrays (h : Grows s t) {type : TypeRef} (htype : s.atlas.Arrays type) :
    t.atlas.Arrays type :=
  htype.of_bounds h.atlas.keepsComponents h.atlas.bounds

mutual

/-- **In a type that was just linked, generic arrays are right.** -/
theorem moves_linkType_arrays (scope : Scope) : ∀ (sig : TypeSig) (s : Linker), s.WF →
    scope.owner.Within s.atlas.extent →
    Moves Grows True s (linkType scope sig) fun type t => t.atlas.Arrays type
  | .cls name, s, hs, hscope => by
      rw [linkType]
      exact (moves_intern fun _ => trivial).bind fun id t _ _ => moves_pure (Atlas.arrays_cls id)
  | .parameterized raw arguments, s, hs, hscope => by
      rw [linkType]
      refine (moves_intern fun _ => trivial).bind fun id t hst _ => ?_
      refine (moves_linkTypes_arrays scope arguments t (hst.wf hs)
        (hscope.mono hst.atlas.extent)).bind fun types u _ htypes => moves_pure ?_
      exact Atlas.arrays_parameterized id htypes
  | .variable name, s, hs, hscope => by
      rw [linkType]
      exact (moves_linkVariable scope name hs hscope).bind fun v t _ _ =>
        moves_pure (Atlas.arrays_variable v)
  | .wildcard upper lower, s, hs, hscope => by
      rw [linkType]
      refine (moves_linkTypes_arrays scope upper s hs hscope).bind fun types t hst hupper => ?_
      refine (moves_linkTypes_arrays scope lower t (hst.wf hs)
        (hscope.mono hst.atlas.extent)).bind fun types' u htu hlower => moves_pure ?_
      exact Atlas.arrays_wildcard (fun x hx => htu.arrays (hupper x hx)) hlower
  | .genericArray component, s, hs, hscope => by
      rw [linkType]
      have hboth := (moves_linkType_arrays scope component s hs hscope).and
        (moves_linkType (F := True) scope component s hs hscope fun _ _ _ => trivial)
      refine (hboth.along fun t h => h.1).bind fun type t hst htype => ?_
      have ht := hst.wf hs
      have hlt := ht.closed.erasure_lt htype.2.fits
      refine moves_get_bind ((moves_intern_array ht hlt).bind fun id u htu hid => moves_pure ?_)
      refine Atlas.arrays_genericArray (htu.arrays htype.1) ?_
      -- the component erases to what it erased to before its array was asked for
      rw [Atlas.erasure_congr htu.atlas.bounds]
      refine (htu.wf ht).named.component_of_brackets (hlt.trans_le htu.atlas.classesSize) ?_
      rwa [htu.atlas.cls _ hlt]

theorem moves_linkTypes_arrays (scope : Scope) : ∀ (sigs : List TypeSig) (s : Linker), s.WF →
    scope.owner.Within s.atlas.extent →
    Moves Grows True s (linkTypes scope sigs) fun types t => ∀ type ∈ types, t.atlas.Arrays type
  | [], s, hs, hscope => by
      rw [linkTypes]
      exact moves_pure (by simp)
  | sig :: sigs, s, hs, hscope => by
      rw [linkTypes]
      refine (moves_linkType_arrays scope sig s hs hscope).bind fun type t hst htype => ?_
      refine (moves_linkTypes_arrays scope sigs t (hst.wf hs) (hscope.mono hst.atlas.extent)).bind
        fun types u htu htypes => moves_pure ?_
      exact List.forall_mem_cons.mpr ⟨htu.arrays htype, htypes⟩

end

/-! ## Bounds -/

/-- What was right in bounds stays right. -/
abbrev KeepsBoundArrays : Linker → Linker → Prop :=
  Keeping fun s => s.atlas.BoundArrays

lemma Grows.keepsBoundArrays (h : Grows s t) : KeepsBoundArrays s t :=
  fun hs => hs.of_bounds h.atlas.keepsComponents h.atlas.bounds

/-- A step for each item of a list, where the items give bounds to variables, those of an item after
those of the items before it. -/
lemma Moves.forM_unbounded {α : Type} {R : Linker → Linker → Prop} [IsPreorder Linker R] {F : Prop}
    {l : List α} {f : α → LinkM PUnit} (vars : α → List VarId)
    (horder : l.Pairwise fun x y => ∀ v ∈ vars x, ∀ w ∈ vars y, v.index < w.index)
    (hfree : ∀ x ∈ l, ∀ v ∈ vars x, s.atlas.Unbounded v.index)
    (h : ∀ x ∈ l, ∀ t, R s t → (∀ v ∈ vars x, t.atlas.Unbounded v.index) →
      Moves R F t (f x) fun _ u => ∀ n, (∀ v ∈ vars x, v.index < n) → t.atlas.Unbounded n →
        u.atlas.Unbounded n) :
    Moves R F s (l.forM f) fun _ u => ∀ n, (∀ x ∈ l, ∀ v ∈ vars x, v.index < n) →
      s.atlas.Unbounded n → u.atlas.Unbounded n := by
  induction l generalizing s with
  | nil => exact moves_pure fun _ _ h => h
  | cons x l ih =>
      obtain ⟨hx, horder⟩ := List.pairwise_cons.mp horder
      change Moves R F s (f x >>= fun _ => l.forM f) _
      refine (h x (List.mem_cons_self ..) s (refl_of R s)
        (hfree x (List.mem_cons_self ..))).bind fun _ t hst hkeep => ?_
      refine (ih horder (fun y hy w hw => ?_) fun y hy u htu => ?_).mono fun _ u _ hu n hn hs => ?_
      · exact hkeep _ (fun v hv => hx y hy v hv w hw) (hfree y (List.mem_cons_of_mem _ hy) w hw)
      · exact h y (List.mem_cons_of_mem _ hy) u (trans_of R hst htu)
      · refine hu n (fun y hy => hn y (List.mem_cons_of_mem _ hy)) ?_
        exact hkeep n (hn x (List.mem_cons_self ..)) hs

/-- Linking the bounds of one type parameter. -/
lemma moves_linkBound_arrays {scope : Scope} {v : VarId} {p : TypeParam} (hs : s.WF)
    (hscope : scope.owner.Within s.atlas.extent) (hv : Declared s v)
    (hfree : s.atlas.Unbounded v.index) :
    Moves (Steps ⊓ KeepsBoundArrays) True s (do
      let bounds ← linkTypes scope p.bounds
      modifyAtlas fun a => a.setBounds v bounds) fun _ t =>
        ∀ n, v.index < n → s.atlas.Unbounded n → t.atlas.Unbounded n := by
  have hkeep : Moves KeepsBoundArrays True s (do
      let bounds ← linkTypes scope p.bounds
      modifyAtlas fun a => a.setBounds v bounds) fun _ t =>
        ∀ n, v.index < n → s.atlas.Unbounded n → t.atlas.Unbounded n := by
    refine (moves_linkTypes_arrays scope p.bounds s hs hscope).bind_along
      (fun t => Grows.keepsBoundArrays) fun types t hst htypes => ?_
    refine moves_modifyAtlas (fun ht => ?_) fun n hn hs => ?_
    · exact ht.setBounds (hfree.of_bounds hst.atlas.bounds) htypes
    · exact (hs.of_bounds hst.atlas.bounds).setBounds hn types
  have hbound := moves_linkBound (F := True) (p := p) hs hscope hv fun _ _ _ => trivial
  exact ((hbound.and hkeep).mono fun _ _ _ h => h.2).along fun t h => ⟨h.1.steps, h.2⟩

/-- **Variables get their bounds in order.** -/
theorem moves_linkBounds_arrays {scope : Scope} {vars : List VarId} {parameters : List TypeParam}
    (hs : s.WF) (hscope : scope.owner.Within s.atlas.extent)
    (hlength : parameters.length = vars.length) (hdeclared : ∀ v ∈ vars, Declared s v)
    (horder : vars.Pairwise fun v w => v.index < w.index)
    (hfree : ∀ v ∈ vars, s.atlas.Unbounded v.index) :
    Moves (Steps ⊓ KeepsBoundArrays) True s (linkBounds scope vars parameters) fun _ t =>
      ∀ n, (∀ v ∈ vars, v.index < n) → s.atlas.Unbounded n → t.atlas.Unbounded n := by
  have hfst : (vars.zip parameters).map Prod.fst = vars := List.map_fst_zip hlength.ge
  have hmem : ∀ e ∈ vars.zip parameters, e.1 ∈ vars := fun e he => (List.of_mem_zip he).1
  have hloop : Moves (Steps ⊓ KeepsBoundArrays) True s (linkBounds scope vars parameters)
      fun _ t => ∀ n, (∀ e ∈ vars.zip parameters, ∀ v ∈ [e.1], v.index < n) →
        s.atlas.Unbounded n → t.atlas.Unbounded n := by
    refine Moves.forM_unbounded (fun e : VarId × TypeParam => [e.1]) ?_ (fun e he => ?_)
      fun e he t hst hfree => ?_
    · rw [← hfst] at horder
      exact (List.pairwise_map.mp horder).imp fun h => by simpa using h
    · simpa using hfree _ (hmem e he)
    · have hframe := hst.1.frame
      refine (moves_linkBound_arrays (hst.1.wf hs) (hscope.mono hframe.extent)
        (hframe.declared _ (hdeclared _ (hmem e he))) (hfree _ (by simp))).mono
        fun _ u _ hkeep n hn => hkeep n (hn _ (by simp))
  refine hloop.mono fun _ t _ hkeep n hn => hkeep n fun e he => ?_
  simpa using hn _ (hmem e he)

/-! ## Declaring in order -/

/-- Nothing happened to types. -/
def KeepsTypes (s t : Linker) : Prop :=
  s.atlas.SameTypes t.atlas

instance : IsPreorder Linker KeepsTypes where
  refl s := Atlas.SameTypes.refl s.atlas
  trans _ _ _ := Atlas.SameTypes.trans

lemma Grows.keepsTypes (h : Grows s t) : KeepsTypes s t :=
  h.atlas.sameTypes

/-- Variables in ascending order, from one position up to another. -/
structure Ascending (n : ℕ) (vars : List VarId) (m : ℕ) : Prop where
  order : vars.Pairwise fun v w => v.index < w.index
  ge : ∀ v ∈ vars, n ≤ v.index
  lt : ∀ v ∈ vars, v.index < m

lemma Ascending.mono {n n' m m' : ℕ} {vars : List VarId} (h : Ascending n vars m) (hn : n' ≤ n)
    (hm : m ≤ m') : Ascending n' vars m' :=
  ⟨h.order, fun v hv => hn.trans (h.ge v hv), fun v hv => (h.lt v hv).trans_le hm⟩

lemma moves_declare_ascending (owner : VarOwner) (parameters : List TypeParam) (s : Linker) :
    Moves KeepsTypes True s (declare owner parameters) fun vars t =>
      Ascending s.atlas.typeVars.size vars t.atlas.typeVars.size := by
  induction parameters generalizing s with
  | nil => exact moves_pure ⟨.nil, by simp, by simp⟩
  | cons p parameters ih =>
      rw [declare, List.mapM_cons]
      have hadd : Moves KeepsTypes True s (addToAtlas fun a => a.addVariable p.name owner)
          fun v t => v.index = s.atlas.typeVars.size ∧
            t.atlas.typeVars.size = s.atlas.typeVars.size + 1 :=
        moves_addToAtlas (Atlas.sameTypes_addVariable ..) ⟨rfl, by simp [Atlas.addVariable]⟩
      refine hadd.bind fun v t _ hv => (ih t).bind fun vars u htu hvars => moves_pure ?_
      have hsize := htu.typeVarsSize
      refine ⟨List.pairwise_cons.mpr ⟨fun w hw => ?_, hvars.order⟩,
        List.forall_mem_cons.mpr ⟨hv.1.ge, fun w hw => ?_⟩,
        List.forall_mem_cons.mpr ⟨by omega, hvars.lt⟩⟩
      · have := hvars.ge w hw
        omega
      · have := hvars.ge w hw
        omega

lemma moves_enclose_keepsTypes (id : ClassId) (name : Option String) (s : Linker) :
    Moves KeepsTypes True s (enclose id name) fun _ _ => True := by
  cases name with
  | none => exact moves_pure trivial
  | some name =>
      refine ((moves_intern fun _ => trivial).along fun t => Grows.keepsTypes).bind
        fun e t _ _ => ?_
      exact moves_modifyAtlas (Atlas.sameTypes_modifyClass _ id (fun _ => rfl) fun _ => rfl) trivial

/-- Declaring a class does nothing to types, and its variables are the next ones. -/
lemma moves_declareClass_ascending (id : ClassId) (s : Linker) :
    Moves KeepsTypes True s (declareClass id) fun answer t =>
      Ascending s.atlas.typeVars.size answer.1 t.atlas.typeVars.size := by
  rw [declareClass_eq]
  refine (moves_nameOf id).bind fun name t _ hname => ?_
  obtain ⟨rfl, rfl⟩ := hname
  refine moves_get_bind ((moves_enclose_keepsTypes id _ t).bind fun _ u htu _ => ?_)
  refine (moves_declare_ascending (.cls id) _ u).bind fun vars v huv hvars => ?_
  have hmodify : Moves KeepsTypes True v (modifyAtlas fun a =>
      a.modifyClass id fun c => { c with typeParameters := vars }) fun _ w =>
        Ascending t.atlas.typeVars.size vars w.atlas.typeVars.size :=
    moves_modifyAtlas (Atlas.sameTypes_modifyClass _ id (fun _ => rfl) fun _ => rfl)
      (hvars.mono htu.typeVarsSize le_rfl)
  exact hmodify.bind fun _ w _ hw => moves_pure hw

/-- The variables of a class come after those of the classes declared before it. -/
lemma moves_mapM_declareClass_ascending (ids : List ClassId) (s : Linker) :
    Moves KeepsTypes True s (ids.mapM fun id => return (id, ← declareClass id)) fun answers t =>
      answers.Pairwise (fun e e' => ∀ v ∈ e.2.1, ∀ w ∈ e'.2.1, v.index < w.index) ∧
        ∀ e ∈ answers, Ascending s.atlas.typeVars.size e.2.1 t.atlas.typeVars.size := by
  induction ids generalizing s with
  | nil => exact moves_pure ⟨.nil, by simp⟩
  | cons id ids ih =>
      rw [List.mapM_cons]
      have hfirst : Moves KeepsTypes True s (do return (id, ← declareClass id)) fun answer t =>
          Ascending s.atlas.typeVars.size answer.2.1 t.atlas.typeVars.size :=
        (moves_declareClass_ascending id s).bind fun _ _ _ h => moves_pure h
      refine hfirst.bind fun answer t hst hanswer => (ih t).bind fun answers u htu h => ?_
      refine moves_pure ⟨List.pairwise_cons.mpr ⟨fun e he v hv w hw => ?_, h.1⟩,
        List.forall_mem_cons.mpr ⟨hanswer.mono le_rfl htu.typeVarsSize, fun e he => ?_⟩⟩
      · exact (hanswer.lt v hv).trans_le ((h.2 e he).ge w hw)
      · exact (h.2 e he).mono hst.typeVarsSize le_rfl

/-! ## Hierarchy -/

/-- What was right about generic arrays stays right. -/
abbrev Settles : Linker → Linker → Prop :=
  Keeping fun s => s.atlas.Settled

lemma KeepsTypes.settles (h : KeepsTypes s t) : Settles s t :=
  fun hs => hs.sameTypes h

lemma Grows.settles (h : Grows s t) : Settles s t :=
  h.keepsTypes.settles

lemma Frame.keepsComponents (h : Frame s t) : s.atlas.KeepsComponents t.atlas := by
  intro c d hd
  have hc : c.index < s.atlas.classes.size :=
    Atlas.lt_of_ne_default ClassNode.component (by rw [hd]; exact Option.some_ne_none d)
  have hcomponent : (t.atlas.cls c).component = (s.atlas.cls c).component :=
    congrArg (·.1.2.2) (h.heading c hc)
  rw [hcomponent, hd]

lemma Bounds.signs {A : Set VarId} (h : Bounds A s t) {type : TypeRef}
    (htype : t.atlas.Signs type) : s.atlas.Signs type := by
  rcases htype with ⟨c, hc⟩ | ⟨m, hm, htype⟩
  · refine Or.inl ⟨c, ?_⟩
    have hsupertypes := h.supertypes c
    simp only [ClassNode.supertypes, Prod.mk.injEq] at hsupertypes
    rwa [hsupertypes.1, hsupertypes.2] at hc
  · rw [h.memberTable] at hm
    rw [h.member] at htype
    exact Or.inr ⟨m, hm, htype⟩

/-- Bounds do no harm to signatures that do not depend on them. -/
lemma Bounds.settles {A : Set VarId} (h : Bounds A s t) (hkeep : KeepsBoundArrays s t)
    (herasure : ∀ type, s.atlas.Signs type → ∀ x, TypeRef.Inside x type →
      t.atlas.erasure x = s.atlas.erasure x) : Settles s t := by
  refine fun hs => ⟨fun type htype => ?_, hkeep hs.bounds⟩
  have hold := h.signs htype
  exact (hs.signatures type hold).of_erasure h.steps.frame.keepsComponents (herasure type hold)

/-- The variables of all classes get their bounds in order. -/
lemma moves_forM_linkBounds_arrays {ids : List ClassId}
    {answers : List (ClassId × List VarId × List TypeParam)} (hs : s.WF)
    (h : List.Forall₂ (DeclaredAs s) ids answers)
    (horder : answers.Pairwise fun e e' => ∀ v ∈ e.2.1, ∀ w ∈ e'.2.1, v.index < w.index)
    (hascending : ∀ e ∈ answers, e.2.1.Pairwise fun v w => v.index < w.index)
    (hfree : s.atlas.Unbounded 0) :
    Moves (Steps ⊓ KeepsBoundArrays) True s
      (answers.forM fun e => linkBounds { cls := e.1 } e.2.1 e.2.2) fun _ _ => True := by
  refine (Moves.forM_unbounded (fun e => e.2.1) horder
    (fun e _ v _ => hfree.mono (Nat.zero_le _)) fun e he t hst hunbounded => ?_).mono
    fun _ _ _ _ => trivial
  obtain ⟨id, -, rfl, hid, hclass⟩ := h.exists_left he
  have hframe := hst.1.frame
  have hscope : Scope.owner { cls := e.1 } |>.Within t.atlas.extent :=
    hid.trans_le hframe.classesSize
  exact moves_linkBounds_arrays (hst.1.wf hs) hscope hclass.name.length_eq
    (fun v hv => hframe.declared v (hclass.declared v hv)) (hascending e he) hunbounded

lemma moves_mapM_linkType_arrays {scope : Scope} (sig : Option TypeSig) (hs : s.WF)
    (hscope : scope.owner.Within s.atlas.extent) :
    Moves Grows True s (sig.mapM (linkType scope)) fun type t =>
      ∀ x ∈ type.toList, t.atlas.Arrays x := by
  cases sig with
  | none => exact moves_pure (by simp)
  | some sig =>
      change Moves Grows True s (some <$> linkType scope sig) _
      rw [map_eq_pure_bind]
      exact (moves_linkType_arrays scope sig s hs hscope).bind
        fun type t _ htype => moves_pure (by simpa using htype)

lemma moves_linkSupertypes_settles {id : ClassId} (hs : s.WF)
    (hid : id.index < s.atlas.classes.size) :
    Moves Settles True s (linkSupertypes id) fun _ _ => True := by
  unfold linkSupertypes
  refine (moves_nameOf id).bind fun name t _ hname => ?_
  obtain ⟨rfl, rfl⟩ := hname
  refine moves_get_bind ?_
  have hscope : Scope.owner { cls := id } |>.Within t.atlas.extent := hid
  refine (moves_mapM_linkType_arrays _ hs hscope).bind_along (fun u => Grows.settles)
    fun superclass u htu hsuper => ?_
  refine (moves_linkTypes_arrays _ _ u (htu.wf hs) (hscope.mono htu.atlas.extent)).bind_along
    (fun v => Grows.settles) fun interfaces v huv hinterfaces => ?_
  refine moves_modifyAtlas (fun hv => hv.setSupertypes ?_ fun type htype => ?_) trivial
  · exact hid.trans_le (htu.trans huv).atlas.classesSize
  · rcases List.mem_append.mp htype with htype | htype
    · exact huv.arrays (hsuper type htype)
    · exact hinterfaces type htype

lemma moves_forM_linkSupertypes_settles {ids : List ClassId} (hs : s.WF) (hnodup : ids.Nodup)
    (himported : ∀ c ∈ ids, (s.atlas.cls c).imported = true)
    (hnew : ∀ c, (s.atlas.cls c).supertypes = (none, [])) :
    Moves Settles True s (ids.forM linkSupertypes) fun _ _ => True := by
  have hdisjoint : ids.Pairwise fun c d => Disjoint ({c} : Set ClassId) {d} :=
    hnodup.imp fun hne => Set.disjoint_singleton.mpr hne
  refine ((Moves.forM_disjoint (R := fun A => Inherits A ⊓ Settles) (P := fun _ _ => True)
    (fun A B t u hAB h => ⟨Inherits.mono A B t u hAB h.1, h.2⟩) hdisjoint
    (fun _ _ _ _ _ _ _ _ => trivial) fun c hc t A hst hA => ?_).mono
    fun _ _ _ _ => trivial).along fun t h => h.2
  have hframe := hst.1.steps.frame
  have ht := hst.1.steps.wf hs
  have hc' := (hframe.isImported c).trans (himported c hc)
  have hnew' := (hst.1.supertypes c (Set.disjoint_singleton_left.mp hA)).trans (hnew c)
  exact ((moves_linkSupertypes ht hc' hnew' fun _ _ _ => trivial).and
    (moves_linkSupertypes_settles ht (Atlas.lt_of_imported hc'))).mono fun _ _ _ _ => trivial

/-- **The first phase leaves all generic arrays right.**  Bounds are linked while no signature is
there, and supertypes when no bound is missing. -/
theorem moves_hierarchyBody_settles (hs : Valid s) (hphase : s.phase = .created)
    (hfree : s.atlas.Unbounded 0) :
    Moves Settles True { s with phase := .hierarchy } hierarchyBody fun _ _ => True := by
  have hwf := hs.wf.withPhase .hierarchy
  have hunsigned : ∀ type, ¬ s.atlas.Signs type := by
    rintro type (⟨c, hc⟩ | ⟨m, hm, -⟩)
    · have hsupertypes := hs.unlinked hphase c
      simp only [ClassNode.supertypes, Prod.mk.injEq] at hsupertypes
      simp [hsupertypes.1, hsupertypes.2] at hc
    · simp [hs.memberless (Or.inl hphase)] at hm
  unfold hierarchyBody
  refine moves_get_bind ?_
  have hdeclare := (moves_mapM_declareClass_ascending s.atlas.imported.toList
    { s with phase := .hierarchy }).and (moves_mapM_declareClass (F := True) hwf hs.nodup
      hs.imported (hs.unenclosed hphase) fun _ _ _ => trivial)
  refine hdeclare.bind_along (fun t h => h.1.settles) fun answers t hboth hanswers => ?_
  obtain ⟨hsame, hst⟩ := hboth
  obtain ⟨⟨horder, hascending⟩, hanswers⟩ := hanswers
  have ht := hst.steps.wf hwf
  have hbounds := (moves_forM_linkBounds (F := True) ht hs.nodup hanswers fun _ _ _ => trivial).and
    (moves_forM_linkBounds_arrays ht hanswers horder (fun e he => (hascending e he).order)
      (hfree.of_bounds hsame.bounds))
  refine hbounds.bind_along (fun u h => h.1.settles h.2.2 ?_) fun _ u hu _ => ?_
  · exact fun type htype => absurd (hsame.signs type htype) (hunsigned type)
  have htu := hu.1
  refine moves_forM_linkSupertypes_settles (htu.steps.wf ht) hs.nodup (fun c hc => ?_) fun c => ?_
  · rw [htu.steps.frame.isImported, hst.steps.frame.isImported]
    exact hs.imported c hc
  · exact ((htu.supertypes c).trans (hst.supertypes c)).trans (hs.unlinked hphase c)

/-! ## Members -/

lemma Steps.integral (h : Steps s t) (hs : s.WF) (ha : s.atlas.Integral) : t.atlas.Integral := by
  induction h with
  | refl => exact ha
  | tail hfirst hlast ih => exact hlast.integral (Steps.wf hfirst hs) ih

/-- The positions in the type of a signature are taken. -/
lemma fits_of_signs (ha : s.atlas.InRange) {type : TypeRef} (h : s.atlas.Signs type) :
    Fits s type := by
  rcases h with ⟨c, hc⟩ | ⟨m, hm, htype⟩
  · rcases lt_or_ge c.index s.atlas.classes.size with hlt | hge
    · have hwithin := ha.cls c hlt
      rcases List.mem_append.mp hc with hc | hc
      · exact hwithin.superclass type (Option.mem_toList.mp hc)
      · exact hwithin.interfaces type hc
    · rw [Atlas.cls_eq_default hge] at hc
      cases hc
  · have hwithin := (ha.member m hm).body
    rcases hbody : (s.atlas.member m).body with ⟨type', raw⟩ | ⟨kind, unit⟩ <;>
      rw [hbody] at hwithin <;> simp only [Member.signatureTypes, hbody] at htype
    · rw [List.mem_singleton.mp htype]
      exact hwithin.1
    · rcases List.mem_append.mp htype with htype | htype
      · exact hwithin.returns type (Option.mem_toList.mp htype)
      · obtain ⟨p, hp, rfl⟩ := List.mem_map.mp htype
        exact (hwithin.parameters p hp).type

lemma moves_addMember_settles {make : Atlas → MemberId → Member} {Q : MemberId → Linker → Prop}
    (h : ∀ type ∈ (make s.atlas ⟨s.atlas.members.size⟩).signatureTypes, s.atlas.Arrays type)
    (hQ : Q ⟨s.atlas.members.size⟩ { s with atlas := (s.atlas.addMember (make s.atlas)).2 }) :
    Moves Settles True s (addToAtlas fun a => a.addMember (make a)) Q :=
  moves_addToAtlas (fun hs => Atlas.Settled.addMember hs h) hQ

lemma moves_linkField_settles {owner : ClassId} {r : Record.Field} (hs : s.WF)
    (howner : owner.index < s.atlas.classes.size) :
    Moves Settles True s (linkField owner r) fun _ _ => True := by
  unfold linkField
  have hscope : Scope.owner { cls := owner } |>.Within s.atlas.extent := howner
  refine ((moves_linkType_arrays _ _ s hs hscope).along fun t => Grows.settles).bind
    fun type t _ htype => moves_get_bind ?_
  dsimp only
  refine Moves.bind (Q := fun _ _ => True) (moves_addMember_settles ?_ trivial) fun id u _ _ => ?_
  · intro x hx
    rw [List.mem_singleton.mp hx]
    exact htype
  refine ((moves_linkAnnots (F := True) _ fun _ _ _ => trivial).along fun v => Grows.settles).bind
    fun annotations v _ _ => ?_
  exact moves_modifyAtlas (fun hv => hv.sameTypes (Atlas.sameTypes_modifyMember _ _ fun _ => rfl))
    trivial

lemma moves_linkParams_arrays {scope : Scope} {id : MemberId} {records : List Record.Param}
    (hs : s.WF) (hscope : scope.owner.Within s.atlas.extent) :
    Moves Grows True s (linkParams scope id records) fun parameters t =>
      ∀ p ∈ parameters, t.atlas.Arrays p.type := by
  have hloop : Moves Grows True s (linkParams scope id records) fun parameters t =>
      List.Forall₂ (fun _ p => t.atlas.Arrays p.type) records.zipIdx parameters := by
    refine Moves.mapM (fun _ _ _ _ _ h htu => htu.arrays h) fun e _ t hst => ?_
    refine (moves_linkType_arrays _ _ t (hst.wf hs) (hscope.mono hst.atlas.extent)).bind
      fun type u _ htype => moves_get_bind ?_
    refine (moves_linkAnnots (F := True) _ fun _ _ _ => trivial).bind
      fun annotations v huv _ => moves_pure (huv.arrays htype)
  refine hloop.mono fun parameters t _ hall p hp => ?_
  obtain ⟨_, -, htype⟩ := hall.exists_left hp
  exact htype

/-- A type in a signature erases to what it did before there were further variables. -/
lemma erasure_eq_of_signs (hs : s.WF) (hrange : s.atlas.InRange) {type x : TypeRef}
    (htype : s.atlas.Signs type) (hx : TypeRef.Inside x type)
    (h : ∀ v : VarId, v.index < s.atlas.typeVars.size → t.atlas.typeVar v = s.atlas.typeVar v) :
    t.atlas.erasure x = s.atlas.erasure x :=
  hs.closed.erasure_eq h (hx.within (fits_of_signs hrange htype))

lemma WF.setTypeParameters (hs : s.WF) (m : MemberId) {vars : List VarId}
    (hvars : ∀ v ∈ vars, Declared s v) :
    WF { s with atlas := s.atlas.modifyMember m fun x =>
      x.modifyCodeUnit fun u => { u with typeParameters := vars } } := by
  refine hs.of_typeVars (hs.named.of_identity rfl rfl rfl fun _ => rfl) rfl rfl
    (fun c v hv => Or.inl hv) fun x v hv => ?_
  rw [Atlas.member_modifyMember] at hv
  split_ifs at hv
  · exact (Member.typeParameters_modifyCodeUnit hv).imp_right (hvars v)
  · exact Or.inl hv

/-- **The bounds of a code unit do no harm**: what was linked before does not mention its
variables. -/
lemma moves_declareUnit_settles {owner : ClassId} {scope : Scope} (parameters : List TypeParam)
    (hs : s.WF) (hrange : s.atlas.InRange)
    (hscope : scope.owner = .codeUnit ⟨s.atlas.members.size⟩) (hbuild : Building s owner t)
    (hsame : KeepsTypes s t) :
    Moves Settles True t (declareUnit scope ⟨s.atlas.members.size⟩ parameters)
      fun _ _ => True := by
  unfold declareUnit
  have ht := hbuild.steps.wf hs
  have howner : (VarOwner.codeUnit ⟨s.atlas.members.size⟩).Within t.atlas.extent := hbuild.lt
  have hdeclare := (moves_declare (F := True) parameters t howner).and
    (moves_declare_ascending (.codeUnit ⟨s.atlas.members.size⟩) parameters t)
  refine hdeclare.bind_along (fun u h => h.1.settles) fun vars u hboth hvars => ?_
  have htu := hboth.1
  obtain ⟨hfresh, hascending⟩ := hvars
  have hkeeps : ∀ a : Atlas, a.SameTypes (a.modifyMember ⟨s.atlas.members.size⟩ fun m =>
      m.modifyCodeUnit fun c => { c with typeParameters := vars }) := fun a =>
    a.sameTypes_modifyMember _ fun m =>
      Member.signatureTypes_modifyCodeUnit m (fun _ => rfl) fun _ => rfl
  refine (moves_modifyAtlas (Q := fun _ v => v = _) (fun hu => hu.sameTypes (hkeeps _)) rfl).bind
    fun _ v _ hv => ?_
  have hdeclared : ∀ w ∈ vars, Declared u w := hfresh.declared ht
  have hwf : v.WF := by
    rw [hv]
    exact (htu.wf ht).setTypeParameters _ hdeclared
  have hscope' : scope.owner.Within v.atlas.extent := by
    rw [hscope, hv]
    change s.atlas.members.size < (u.atlas.modifyMember _ _).members.size
    rw [Atlas.size_modifyMember, htu.atlas.members]
    exact hbuild.lt
  -- variables of the code unit come after all that were there
  have hfree : ∀ w ∈ vars, v.atlas.Unbounded w.index := fun w hw =>
    ((t.atlas.unbounded_size.of_bounds htu.atlas.bounds).mono (hascending.ge w hw)).of_bounds
      (by rw [hv]; exact fun _ => rfl)
  have hbounds := (moves_linkBounds (F := True) hwf hscope' hfresh.name.length_eq
    (by rw [hv]; exact hdeclared) hfresh.nodup fun _ _ _ => trivial).and
    (moves_linkBounds_arrays hwf hscope' hfresh.name.length_eq (by rw [hv]; exact hdeclared)
      hascending.order hfree)
  refine ((hbounds.mono fun _ _ _ _ => trivial).along fun w hvw => ?_).bind
    fun _ _ _ _ => moves_pure trivial
  refine hvw.1.settles hvw.2.2 fun type htype x hx => ?_
  have hsigned : s.atlas.Signs type := by
    rw [hv] at htype
    exact hsame.signs type (htu.keepsTypes.signs type ((hkeeps _).signs type htype))
  have hold : ∀ y : VarId, y.index < s.atlas.typeVars.size →
      v.atlas.typeVar y = s.atlas.typeVar y := fun y hy => by
    rw [hv]
    exact (htu.atlas.typeVar y (hy.trans_le hbuild.steps.frame.typeVarsSize)).trans
      (hbuild.typeVar y hy)
  have hnew : ∀ y : VarId, y.index < s.atlas.typeVars.size →
      w.atlas.typeVar y = s.atlas.typeVar y := fun y hy => by
    have hle := hbuild.steps.frame.typeVarsSize
    refine (hvw.1.typeVar y ?_ fun hmem => ?_).trans (hold y hy)
    · rw [hv]
      exact hy.trans_le (hle.trans htu.atlas.typeVarsSize)
    · exact absurd (hy.trans_le hle) (not_lt.mpr (hascending.ge y hmem))
  rw [erasure_eq_of_signs hs hrange hsigned hx hnew, erasure_eq_of_signs hs hrange hsigned hx hold]

/-- A code unit that is completed has the types of its signature. -/
lemma moves_completeUnit_settles {owner : ClassId} {kind : CodeKind} {r : Record.CodeUnit}
    {id : MemberId} {raw : ClassId} {unit : CodeUnit} {annotations : List Annot}
    (h : ∀ type ∈ unit.returns.toList ++ unit.parameters.map (·.type), t.atlas.Arrays type) :
    Moves Settles True t (completeUnit owner kind r id raw unit annotations) fun _ _ => True := by
  unfold completeUnit
  refine moves_get_bind (moves_modifyAtlas_modify ?_ fun _ _ => trivial)
  exact fun ht => Atlas.Settled.modifyMember ht h

/-- A member without a signature is added, and something follows. -/
lemma moves_addDraft_bind {α : Type} {owner : ClassId} {make : Atlas → MemberId → Member}
    {f : MemberId → LinkM α} {Q : α → Linker → Prop}
    (howner : (s.atlas.cls owner).imported = true)
    (hdraft : ∀ id, Draft owner id (make s.atlas id))
    (hbody : ∀ id, (make s.atlas id).body.Within s.atlas.extent)
    (hsigns : (make s.atlas ⟨s.atlas.members.size⟩).signatureTypes = [])
    (hf : ∀ t, Building s owner t →
      t.atlas.member ⟨s.atlas.members.size⟩ = make s.atlas ⟨s.atlas.members.size⟩ →
      KeepsTypes s t → Moves Settles True t (f ⟨s.atlas.members.size⟩) Q) :
    Moves Settles True s (addToAtlas (fun a => a.addMember (make a)) >>= f) Q := by
  have hsame : KeepsTypes s { s with atlas := (s.atlas.addMember (make s.atlas)).2 } :=
    s.atlas.sameTypes_addMember hsigns
  have hmoves := hf _ (Building.addMember _ howner hdraft hbody)
    ((Atlas.member_addMember ..).trans (if_pos rfl)) hsame
  exact hmoves.from_state rfl fun u hu hs => hu (hsame.settles hs)

lemma moves_linkCodeUnit_settles {owner : ClassId} {kind : CodeKind} {r : Record.CodeUnit}
    (hs : s.WF) (hrange : s.atlas.InRange) (howner : (s.atlas.cls owner).imported = true) :
    Moves Settles True s (linkCodeUnit owner kind r) fun _ _ => True := by
  rw [linkCodeUnit_eq]
  refine moves_addDraft_bind howner (fun _ => ⟨rfl, rfl, rfl, rfl, rfl, rfl, rfl, rfl⟩)
    (fun _ => by constructor <;> simp) rfl fun t hbuild hmake hsame => ?_
  have howned : Scope.owner { cls := owner, codeUnit := some ⟨s.atlas.members.size⟩ } =
      .codeUnit ⟨s.atlas.members.size⟩ := rfl
  have hdeclare := (moves_declareUnit_settles r.typeParameters hs hrange howned hbuild hsame).and
    (moves_declareUnit (F := True) hs howned hbuild (by rw [hmake]) fun _ _ _ => trivial)
  refine (hdeclare.along fun u h => h.1).bind fun vars u _ hvars => ?_
  obtain ⟨-, hbuild, -⟩ := hvars
  have hu := hbuild.steps.wf hs
  have hscope : Scope.owner { cls := owner, codeUnit := some ⟨s.atlas.members.size⟩ }
      |>.Within u.atlas.extent := hbuild.lt
  refine (moves_linkParams_arrays hu hscope).bind_along (fun v => Grows.settles)
    fun parameters v huv hparameters => ?_
  refine (moves_linkType_arrays _ _ v (huv.wf hu) (hscope.mono huv.atlas.extent)).bind_along
    (fun w => Grows.settles) fun returns w hvw hreturns => ?_
  refine moves_get_bind ?_
  refine (moves_linkMentioned (F := True) fun _ _ _ => trivial).bind_along
    (fun x => Grows.settles) fun answer x hwx hanswer => ?_
  obtain ⟨hsignature, -⟩ := hanswer
  simp only [signature, Prod.mk.injEq] at hsignature
  refine moves_completeUnit_settles fun type htype => ?_
  rw [hsignature.1, hsignature.2.2.1] at htype
  rcases List.mem_append.mp htype with htype | htype
  · rw [Option.some.inj (Option.mem_toList.mp htype)] at hreturns
    exact hwx.arrays hreturns
  · obtain ⟨p, hp, rfl⟩ := List.mem_map.mp htype
    exact (hvw.trans hwx).arrays (hparameters p hp)

lemma moves_linkClassMembers_settles {id : ClassId} (hs : s.WF) (ha : s.atlas.Integral)
    (himported : (s.atlas.cls id).imported = true) :
    Moves Settles True s (linkClassMembers id) fun _ _ => True := by
  rw [linkClassMembers_eq]
  refine (moves_nameOf id).bind fun name s' _ hname => ?_
  obtain ⟨rfl, rfl⟩ := hname
  refine moves_get_bind ?_
  have hfields : Moves (Steps ⊓ Settles) True s'
      ((s'.context.fields (s'.atlas.cls id).name).forM (linkField id)) fun _ _ => True := by
    refine Moves.forM fun r _ t hst => ?_
    have ht := hst.1.wf hs
    have himported' := (hst.1.frame.isImported id).trans himported
    have hfield := (moves_linkField (F := True) (r := r) ht himported' fun _ _ _ => trivial).and
      (moves_linkField_settles ht (Atlas.lt_of_imported himported'))
    exact (hfield.mono fun _ _ _ _ => trivial).along fun u h => ⟨h.1.steps, h.2⟩
  refine ((hfields.mono fun _ _ h _ => h.1).along fun t h => h.2).bind fun _ t _ hst => ?_
  have ht := hst.wf hs
  have hunits : Moves (Steps ⊓ Settles) True t ((s'.context.unitRecords (s'.atlas.cls id).name).forM
      fun e => linkCodeUnit id e.1 e.2) fun _ _ => True := by
    refine Moves.forM fun e he u htu => ?_
    have hframe := hst.frame.trans htu.1.frame
    have hu := htu.1.wf ht
    have himported' := (hframe.isImported id).trans himported
    have hrecord : e.2 ∈ u.context.codeUnits (u.atlas.cls id).name e.1 := by
      rw [hframe.context, hframe.className (Atlas.lt_of_imported himported)]
      exact ImportContext.mem_unitRecords.mp he
    have hunit := (moves_linkCodeUnit (F := True) hu himported' hrecord fun _ _ _ => trivial).and
      (moves_linkCodeUnit_settles hu ((trans_of Steps hst htu.1).integral hs ha).inRange himported')
    exact (hunit.mono fun _ _ _ _ => trivial).along fun v h => ⟨h.1.steps, h.2⟩
  refine (hunits.along fun u h => h.2).bind fun _ u _ _ => ?_
  refine ((moves_linkAnnots (F := True) _ fun _ _ _ => trivial).along fun v => Grows.settles).bind
    fun annotations v _ _ => ?_
  exact moves_modifyAtlas (fun hv => hv.sameTypes
    (Atlas.sameTypes_modifyClass _ id (fun _ => rfl) fun _ => rfl)) trivial

/-- **The second phase leaves all generic arrays right.** -/
theorem moves_membersBody_settles (hs : s.WF) (ha : s.atlas.Integral)
    (himported : ∀ c ∈ s.atlas.imported.toList, (s.atlas.cls c).imported = true) :
    Moves Settles True s membersBody fun _ _ => True := by
  have hloop : Moves (Steps ⊓ Settles) True s membersBody fun _ _ => True := by
    refine moves_get_bind (Moves.forM fun c hc t hst => ?_)
    have ht := hst.1.wf hs
    have himported' := (hst.1.frame.isImported c).trans (himported c hc)
    have hclass := (moves_linkClassMembers (F := True) ht himported' fun _ _ _ => trivial).and
      (moves_linkClassMembers_settles ht (hst.1.integral hs ha) himported')
    exact (hclass.mono fun _ _ _ _ => trivial).along fun u h => ⟨h.1.steps, h.2⟩
  exact hloop.along fun t h => h.2

/-! ## Runs -/

/-- The third phase does nothing to types. -/
lemma leads_accessesBody_keepsTypes : Leads KeepsTypes accessesBody := by
  refine leads_accessesBody (fun name => ?_) (fun s => refl_of KeepsTypes s) (fun make s => ?_)
    fun m ids s => ?_
  · have hintern : ∀ s, Moves Grows True s (intern name) fun id t =>
        t.atlas.names.get? name = some id := fun s => moves_intern fun _ => trivial
    exact fun s => ((hintern s).along fun t => Grows.keepsTypes).after
  · exact s.atlas.sameTypes_addAccess make
  · refine s.atlas.sameTypes_modifyMember m fun x => ?_
    have hsame : SameUnit x (x.withAccesses ids) := ⟨ids, rfl⟩
    exact hsame.keep Member.signatureTypes fun x _ _ _ hbody => by
      simp [Member.signatureTypes, hbody]

/-- What holds of generic arrays during a run.  Before the first phase no variable has bounds. -/
structure Arranged (s : Linker) : Prop where
  settled : s.atlas.Settled
  unbounded : s.phase = .created → s.atlas.Unbounded 0

lemma Started.arranged {context : ImportContext} (h : Started context s) : Arranged s := by
  have hfree : s.atlas.Unbounded 0 := by
    intro v _
    rw [Atlas.typeVar_eq_default (by simp [h.registered.typeVars])]
    rfl
  refine ⟨⟨fun type htype => ?_, Atlas.boundArrays_of_unbounded hfree⟩, fun _ => hfree⟩
  rcases htype with ⟨c, hc⟩ | ⟨m, hm, -⟩
  · have hblank := h.registered.blank c
    simp [hblank.superclass, hblank.interfaces] at hc
  · simp [h.registered.members] at hm

/-- A phase that was started leaves generic arrays right, even if it fails. -/
lemma perform_settled {r : Request} {p : PhaseStep} (h : r.phase? = some p) (hs : Valid s)
    (ha : s.atlas.Integral) (hphase : s.phase = p.expected) (harranged : Arranged s) :
    (s.perform r).2.atlas.Settled := by
  have hbody : Settles { s with phase := p.next } (after p.body { s with phase := p.next }) := by
    cases r with
    | hierarchy =>
        cases h
        exact (moves_hierarchyBody_settles hs hphase (harranged.unbounded hphase)).after
    | members =>
        cases h
        exact (moves_membersBody_settles (hs.wf.withPhase .members) ha hs.imported).after
    | accesses =>
        cases h
        exact (leads_accessesBody_keepsTypes _).settles
    | cls name => cases h
  rw [perform_of_phase h hphase]
  rcases hx : p.body { s with phase := p.next } with ⟨_, t⟩ | ⟨e, t⟩
  · rw [after_of_ok hx] at hbody
    exact hbody harranged.settled
  · rw [after_of_error hx] at hbody
    exact hbody harranged.settled

lemma perform_arranged (hs : Valid s) (ha : s.atlas.Integral) (h : Arranged s) (r : Request) :
    Arranged (s.perform r).2 := by
  rcases hr : r.phase? with _ | p
  · obtain ⟨name, rfl⟩ := Request.eq_cls hr
    have hgrows := perform_cls s name
    refine ⟨hgrows.settles h.settled, fun hphase => ?_⟩
    rw [hgrows.phase] at hphase
    exact (h.unbounded hphase).of_bounds hgrows.atlas.bounds
  · by_cases hphase : s.phase = p.expected
    · refine ⟨perform_settled hr hs ha hphase h, fun hcreated => ?_⟩
      obtain ⟨-, -, hnext, -⟩ := perform_started hr hs hphase
      rw [hnext] at hcreated
      cases r <;> cases hr <;> cases hcreated
    · rw [perform_of_ne hr hphase]
      exact h

/-- **Generic arrays are right at every moment of a run.** -/
theorem run_arranged (hs : Valid s) (ha : s.atlas.Integral) (h : Arranged s) (rs : List Request) :
    Arranged (s.run rs).2 := by
  induction rs generalizing s with
  | nil => exact h
  | cons r rs ih =>
      obtain ⟨hvalid, p, hsteps⟩ := perform_valid hs r
      exact ih hvalid (hsteps.integral (hs.wf.withPhase p) ha) (perform_arranged hs ha h r)

lemma Completed.settled {context : ImportContext} {a : Atlas} (h : Completed context a) :
    a.Settled := by
  obtain ⟨options, files, s, rs, hstart, hfinish⟩ := h
  have hs := start_eq_ok hstart
  rw [← finish_eq_ok hfinish]
  exact (run_arranged hs.valid hs.integral hs.arranged rs).settled

end Linker

end ClassAtlas
