import ClassAtlas.Proofs.Atlas.Involved
import ClassAtlas.Proofs.Linker.Erasures
import ClassAtlas.Proofs.Linker.Finished

/-!
# Two runs over the same records

The order of records decides at which positions classes, members and type variables end up, and
which bounds are known when a type is linked.  Everything else is the same: what is linked from one
record in one run has a twin in the other run.

* `Alike` — two finished runs over the same records.
* `TwinClass`, `TwinScope`, `TwinVar`, `TwinType` — classes of the same type, scopes of the same
  class or code unit, variables of the same type parameter, types of the same signature.
* `Alike.typeVars`, `Alike.twinVar` — a name stands for twins in scopes that are twins.
* `Alike.erasure` — **what is linked from one signature erases to the same class**.
* `Alike.involves`, `Alike.typeName` — it involves the same classes, and is written alike.

Twins of variables are told by the type parameter that they come from, since a bound may mention the
variable itself.  The class that a generic array erases to is left out of the comparison of types:
in a bound it may depend on the order of records.
-/

namespace ClassAtlas

/-- A type parameter that is bounded by classes, parameterized types or type variables. -/
def TypeParam.Bounded (p : TypeParam) : Prop :=
  ∀ bound ∈ p.bounds, bound.IsBound

instance (p : TypeParam) : Decidable p.Bounded :=
  inferInstanceAs (Decidable (∀ bound ∈ p.bounds, bound.IsBound))

namespace Linker

variable {t t' : Linker} {c c' : ClassId} {scope scope' : Scope}

/-! ## Classes -/

/-- Two classes of the same type. -/
structure TwinClass (t t' : Linker) (c c' : ClassId) : Prop where
  taken : c.index < t.atlas.classes.size
  taken' : c'.index < t'.atlas.classes.size
  type : (t'.atlas.cls c').type = (t.atlas.cls c).type

namespace TwinClass

lemma symm (h : TwinClass t t' c c') : TwinClass t' t c' c :=
  ⟨h.taken', h.taken, h.type.symm⟩

lemma name (h : TwinClass t t' c c') : (t'.atlas.cls c').name = (t.atlas.cls c).name :=
  congrArg Descriptor.name h.type

lemma fullName (h : TwinClass t t' c c') : (t'.atlas.cls c').fullName = (t.atlas.cls c).fullName :=
  congrArg Descriptor.fullName h.type

lemma isPrimitive (h : TwinClass t t' c c') :
    (t'.atlas.cls c').isPrimitive = (t.atlas.cls c).isPrimitive :=
  congrArg Descriptor.isPrimitive h.type

lemma of_known (ht : t.WF) (ht' : t'.WF) {name : String} (h : Known t name c)
    (h' : Known t' name c') : TwinClass t t' c c' :=
  ⟨ht.named.inRange h, ht'.named.inRange h', (ht'.named.denotes h').unique (ht.named.denotes h)⟩

lemma left_unique (ht : t.WF) {d : ClassId} (h : TwinClass t t' c c') (h' : TwinClass t t' d c') :
    c = d :=
  ht.named.name_inj h.taken h'.taken (h.name.symm.trans h'.name)

lemma right_unique (ht' : t'.WF) {d' : ClassId} (h : TwinClass t t' c c')
    (h' : TwinClass t t' c d') : c' = d' :=
  ht'.named.name_inj h.taken' h'.taken' (h.name.trans h'.name.symm)

lemma biUnique (ht : t.WF) (ht' : t'.WF) : Relator.BiUnique (TwinClass t t') :=
  ⟨fun _ _ _ h h' => left_unique ht h h', fun _ _ _ h h' => right_unique ht' h h'⟩

end TwinClass

/-- Two finished runs over the same records, in which the same classes are imported. -/
structure Alike (t t' : Linker) : Prop where
  left : Finished t
  right : Finished t'
  context : t'.context = { t.context with headers := t'.context.headers }
  matched : ∀ c, (t.atlas.cls c).imported = true → ∃ c', TwinClass t t' c c'
  matched' : ∀ c', (t'.atlas.cls c').imported = true → ∃ c, TwinClass t t' c c'
  imported : ∀ {c c'}, TwinClass t t' c c' →
    (t'.atlas.cls c').imported = (t.atlas.cls c).imported
  kind : ∀ {c c'}, TwinClass t t' c c' → (t.atlas.cls c).imported = true →
    (t'.atlas.cls c').kind = (t.atlas.cls c).kind
  sourceFileName : ∀ {c c'}, TwinClass t t' c c' → (t.atlas.cls c).imported = true →
    (t'.atlas.cls c').sourceFileName = (t.atlas.cls c).sourceFileName
  classBounds : ∀ name, ∀ p ∈ t.context.typeParameters name, p.Bounded
  unitBounds : ∀ name, ∀ e ∈ t.context.unitRecords name, ∀ p ∈ e.2.typeParameters, p.Bounded

namespace Alike

lemma symm (h : Alike t t') : Alike t' t where
  left := h.right
  right := h.left
  context := by rw [h.context]
  matched c hc := (h.matched' c hc).imp fun _ => TwinClass.symm
  matched' c hc := (h.matched c hc).imp fun _ => TwinClass.symm
  imported hc := (h.imported hc.symm).symm
  kind hc himported := (h.kind hc.symm ((h.imported hc.symm).symm.trans himported)).symm
  sourceFileName hc himported :=
    (h.sourceFileName hc.symm ((h.imported hc.symm).symm.trans himported)).symm
  classBounds := by
    rw [h.context]
    exact h.classBounds
  unitBounds := by
    rw [h.context]
    exact h.unitBounds

lemma twinClass (h : Alike t t') {name : String} (hc : Known t name c) (hc' : Known t' name c') :
    TwinClass t t' c c' :=
  .of_known h.left.wf h.right.wf hc hc'

lemma twinObject (h : Alike t t') : TwinClass t t' Atlas.object Atlas.object :=
  ⟨h.left.nonempty, h.right.nonempty, h.right.topmost.trans h.left.topmost.symm⟩

/-- The classes around twins are twins. -/
lemma enclosingClass (h : Alike t t') (hc : TwinClass t t' c c') :
    Option.Rel (TwinClass t t') (t.atlas.cls c).enclosingClass
      (t'.atlas.cls c').enclosingClass := by
  rcases himported : (t.atlas.cls c).imported
  · rw [(h.left.stub c himported).enclosingClass,
      (h.right.stub c' ((h.imported hc).trans himported)).enclosingClass]
    exact .none
  · have henclosing := (h.left.cls c himported).scope.enclosing
    have henclosing' := (h.right.cls c' ((h.imported hc).trans himported)).scope.enclosing
    rw [h.context, hc.name] at henclosing'
    refine (henclosing.of_common henclosing').imp ?_
    rintro e e' ⟨name, he, he'⟩
    exact h.twinClass he he'

end Alike

/-! ## Scopes and variables -/

/-- Scopes of the same class, or of code units that come from the same record. -/
structure TwinScope (t t' : Linker) (scope scope' : Scope) : Prop where
  cls : TwinClass t t' scope.cls scope'.cls
  codeUnit : Option.Rel (fun m m' => ∃ kind r, (∀ p ∈ r.typeParameters, p.Bounded) ∧
    UnitFinished t scope.cls kind r m ∧ UnitFinished t' scope'.cls kind r m')
    scope.codeUnit scope'.codeUnit

/-- Variables of the same name that are bounded by the same type parameter.  A variable without
bounds can be taken for one of a type parameter that has none. -/
structure TwinVar (t t' : Linker) (v v' : VarId) : Prop where
  name : (t'.atlas.typeVar v').name = (t.atlas.typeVar v).name
  bounds : ∃ scope scope' p, TwinScope t t' scope scope' ∧ TypeParam.Bounded p ∧
    BoundsLinked t scope p v ∧ BoundsLinked t' scope' p v'

lemma TwinScope.symm (h : TwinScope t t' scope scope') : TwinScope t' t scope' scope := by
  refine ⟨h.cls.symm, h.codeUnit.flip.imp ?_⟩
  rintro m' m ⟨kind, r, hbounded, hm, hm'⟩
  exact ⟨kind, r, hbounded, hm', hm⟩

lemma TwinScope.of_class (hc : TwinClass t t' c c') : TwinScope t t' { cls := c } { cls := c' } :=
  ⟨hc, .none⟩

lemma TwinScope.of_unit {kind : CodeKind} {r : Record.CodeUnit} {m m' : MemberId}
    (hc : TwinClass t t' c c') (hbounded : ∀ p ∈ r.typeParameters, p.Bounded)
    (hm : UnitFinished t c kind r m) (hm' : UnitFinished t' c' kind r m') :
    TwinScope t t' { cls := c, codeUnit := some m } { cls := c', codeUnit := some m' } :=
  ⟨hc, .some ⟨kind, r, hbounded, hm, hm'⟩⟩

/-- The variables that the same type parameters are linked to are twins. -/
lemma TwinScope.forall₂_twinVar (hscope : TwinScope t t' scope scope')
    {parameters : List TypeParam} {vars vars' : List VarId}
    (hname : List.Forall₂ (fun p v => (t.atlas.typeVar v).name = p.name) parameters vars)
    (hbounds : List.Forall₂ (BoundsLinked t scope) parameters vars)
    (hname' : List.Forall₂ (fun p v => (t'.atlas.typeVar v).name = p.name) parameters vars')
    (hbounds' : List.Forall₂ (BoundsLinked t' scope') parameters vars')
    (hparameters : ∀ p ∈ parameters, p.Bounded) : List.Forall₂ (TwinVar t t') vars vars' := by
  have hleft := List.Forall₂.mp (fun p v => And.intro) hname hbounds
  have hright := List.Forall₂.mp (fun p v => And.intro) hname' hbounds'
  refine (hleft.of_common hright).imp ?_
  rintro v v' ⟨p, hp, ⟨hv, hbounds⟩, hv', hbounds'⟩
  exact ⟨hv'.trans hv.symm, scope, scope', p, hscope, hparameters p hp, hbounds, hbounds'⟩

namespace Alike

/-- The type parameters of twins are twins. -/
lemma classParameters (h : Alike t t') (hc : TwinClass t t' c c') :
    List.Forall₂ (TwinVar t t') (t.atlas.cls c).typeParameters
      (t'.atlas.cls c').typeParameters := by
  rcases himported : (t.atlas.cls c).imported
  · rw [(h.left.stub c himported).typeParameters,
      (h.right.stub c' ((h.imported hc).trans himported)).typeParameters]
    exact .nil
  · obtain ⟨-, hname, hbounds⟩ := (h.left.cls c himported).scope
    obtain ⟨-, hname', hbounds'⟩ := (h.right.cls c' ((h.imported hc).trans himported)).scope
    rw [h.context, hc.name] at hname' hbounds'
    exact (TwinScope.of_class hc).forall₂_twinVar hname hbounds hname' hbounds' (h.classBounds _)

end Alike

/-- The type parameters of code units from the same record are twins. -/
lemma UnitFinished.forall₂_twinVar {kind : CodeKind} {r : Record.CodeUnit} {m m' : MemberId}
    (hm : UnitFinished t c kind r m) (hm' : UnitFinished t' c' kind r m')
    (hc : TwinClass t t' c c') (hbounded : ∀ p ∈ r.typeParameters, p.Bounded) :
    List.Forall₂ (TwinVar t t') (t.atlas.member m).typeParameters
      (t'.atlas.member m').typeParameters :=
  (TwinScope.of_unit hc hbounded hm hm').forall₂_twinVar hm.varName hm.bounds hm'.varName
    hm'.bounds hbounded

/-- The classes around twins, from the inside out, are twins. -/
lemma Alike.enclosingClasses (h : Alike t t') (hc : TwinClass t t' c c') :
    List.Forall₂ (TwinClass t t')
      (Search.depthFirst (fun d => (t.atlas.cls d).enclosingClass.toList) t.atlas.classes.size c)
      (Search.depthFirst (fun d => (t'.atlas.cls d).enclosingClass.toList) t'.atlas.classes.size
        c') := by
  -- both searches find all classes, so the larger of the two bounds serves both
  rw [← Search.depthFirst_eq_of_le (Scope.enclosing_live t.atlas) t.atlas.card_classIds_le
      (le_max_left t.atlas.classes.size t'.atlas.classes.size),
    ← Search.depthFirst_eq_of_le (Scope.enclosing_live t'.atlas) t'.atlas.card_classIds_le
      (le_max_right t.atlas.classes.size t'.atlas.classes.size)]
  refine Search.forall₂_depthFirst (TwinClass.biUnique h.left.wf h.right.wf) ?_ _ hc
  intro d d' hd
  exact (h.enclosingClass hd).forall₂_toList

/-- **Scopes that are twins declare twins, in the same order.** -/
theorem Alike.typeVars (h : Alike t t') (hscope : TwinScope t t' scope scope') :
    List.Forall₂ (TwinVar t t') (scope.typeVars t.atlas) (scope'.typeVars t'.atlas) := by
  rw [Scope.typeVars_eq, Scope.typeVars_eq]
  refine List.rel_append ?_ ?_
  · refine List.rel_flatMap hscope.codeUnit.forall₂_toList ?_
    rintro m m' ⟨kind, r, hbounded, hm, hm'⟩
    exact hm.forall₂_twinVar hm' hscope.cls hbounded
  · exact List.rel_flatMap (h.enclosingClasses hscope.cls) fun _ _ hd => h.classParameters hd

/-- A name stands for twins in scopes that are twins. -/
theorem Alike.twinVar (h : Alike t t') (hscope : TwinScope t t' scope scope') {name : String}
    {v v' : VarId} (hv : Links t scope (.variable name) (.variable v))
    (hv' : Links t' scope' (.variable name) (.variable v')) : TwinVar t t' v v' := by
  have hfind := (h.typeVars hscope).find? (p := fun v => (t.atlas.typeVar v).name == name)
    (q := fun v => (t'.atlas.typeVar v).name == name) fun v v' hv => by rw [hv.name]
  rcases hfind with ⟨hnone, hnone'⟩ | ⟨w, w', hsome, hsome', hw⟩
  · cases hv with
    | declared hv => cases hnone.symm.trans hv
    | undeclared _ hv =>
      cases hv' with
      | declared hv' => cases hnone'.symm.trans hv'
      | undeclared _ hv' =>
          have hloose := h.left.wf.undeclared _ hv
          have hloose' := h.right.wf.undeclared _ hv'
          refine ⟨hloose'.name.trans hloose.name.symm, scope, scope', ⟨name, []⟩, hscope,
            ?_, ?_, ?_⟩
          · intro bound hbound
            cases hbound
          · rw [BoundsLinked, hloose.unbounded]
            exact .nil
          · rw [BoundsLinked, hloose'.unbounded]
            exact .nil
  · cases hv with
    | undeclared hv => cases hsome.symm.trans hv
    | declared hv =>
      cases hv' with
      | undeclared hv' => cases hsome'.symm.trans hv'
      | declared hv' =>
          obtain rfl := Option.some.inj (hsome.symm.trans hv)
          obtain rfl := Option.some.inj (hsome'.symm.trans hv')
          exact hw

/-! ## Erasures -/

lemma Links.exists_variable {name : String} {type : TypeRef}
    (h : Links t scope (.variable name) type) : ∃ v, type = .variable v := by
  cases h with
  | declared _ => exact ⟨_, rfl⟩
  | undeclared _ _ => exact ⟨_, rfl⟩

namespace Alike

/-- What can be a bound erases to twins. -/
lemma erasureWithin_bound (h : Alike t t') (n : ℕ) {sig : TypeSig} {type type' : TypeRef}
    (hscope : TwinScope t t' scope scope') (hlinks : Links t scope sig type)
    (hlinks' : Links t' scope' sig type') (hsig : sig.IsBound) :
    TwinClass t t' (t.atlas.erasureWithin n type) (t'.atlas.erasureWithin n type') := by
  induction n generalizing scope scope' sig type type' with
  | zero => exact h.twinObject
  | succ n ih =>
      rcases sig with name | ⟨raw, arguments⟩ | name | ⟨upper, lower⟩ | component
      · cases hlinks with
        | cls hc =>
          cases hlinks' with
          | cls hc' => exact h.twinClass hc hc'
      · cases hlinks with
        | parameterized hc =>
          cases hlinks' with
          | parameterized hc' => exact h.twinClass hc hc'
      · obtain ⟨v, rfl⟩ := hlinks.exists_variable
        obtain ⟨v', rfl⟩ := hlinks'.exists_variable
        obtain ⟨-, outer, outer', p, houter, hbounded, hbounds, hbounds'⟩ :=
          h.twinVar hscope hlinks hlinks'
        have hfirst := hbounds.of_common hbounds'
        rw [Atlas.erasureWithin, Atlas.erasureWithin]
        generalize (t.atlas.typeVar v).bounds = bounds at hfirst ⊢
        generalize (t'.atlas.typeVar v').bounds = bounds' at hfirst ⊢
        cases hfirst with
        | nil => exact h.twinObject
        | cons hbound _ =>
            obtain ⟨bound, hmem, ⟨hlinks, -⟩, hlinks', -⟩ := hbound
            have hsig := hbounded bound hmem
            exact ih houter (hlinks hsig) (hlinks' hsig) hsig
      · exact hsig.elim
      · exact hsig.elim

/-- What is linked from one signature erases to twins, in any number of steps. -/
lemma erasureWithin (h : Alike t t') {sig : TypeSig} {type type' : TypeRef}
    (hscope : TwinScope t t' scope scope') (hlinks : Links t scope sig type)
    (hlinks' : Links t' scope' sig type') (n : ℕ) :
    TwinClass t t' (t.atlas.erasureWithin n type) (t'.atlas.erasureWithin n type') := by
  induction hlinks generalizing n type' with
  | cls hc => exact h.erasureWithin_bound n hscope (.cls hc) hlinks' trivial
  | parameterized hc => exact h.erasureWithin_bound n hscope (.parameterized hc) hlinks' trivial
  | declared hv => exact h.erasureWithin_bound n hscope (.declared hv) hlinks' trivial
  | undeclared hnone hv =>
      exact h.erasureWithin_bound n hscope (.undeclared hnone hv) hlinks' trivial
  | unbounded =>
      cases hlinks' with
      | unbounded => cases n <;> exact h.twinObject
  | bounded _ ih =>
      cases hlinks' with
      | bounded hbound' =>
        cases n with
        | zero => exact h.twinObject
        | succ n => exact ih hbound' n
  | genericArray _ _ harray ih =>
      cases hlinks' with
      | genericArray hcomponent' _ harray' =>
        cases n with
        | zero => exact h.twinObject
        | succ n =>
            -- the name of the array is that of what the component erases to, with brackets
            have hcomponent : TwinClass t t' (t.atlas.erasure _) (t'.atlas.erasure _) :=
              ih hcomponent' 33
            rw [hcomponent.name] at harray'
            exact h.twinClass harray harray'

/-- **What is linked from one signature erases to twins.** -/
theorem erasure (h : Alike t t') {sig : TypeSig} {type type' : TypeRef}
    (hscope : TwinScope t t' scope scope') (hlinks : Links t scope sig type)
    (hlinks' : Links t' scope' sig type') :
    TwinClass t t' (t.atlas.erasure type) (t'.atlas.erasure type') :=
  h.erasureWithin hscope hlinks hlinks' 33

end Alike

/-! ## Types -/

/-- Types of the same signature, read in scopes that are twins. -/
def TwinType (t t' : Linker) (type type' : TypeRef) : Prop :=
  ∃ scope scope' sig, TwinScope t t' scope scope' ∧ Reads t scope sig type ∧
    Reads t' scope' sig type'

lemma TwinType.symm {type type' : TypeRef} (h : TwinType t t' type type') :
    TwinType t' t type' type := by
  obtain ⟨scope, scope', sig, hscope, hreads, hreads'⟩ := h
  exact ⟨scope', scope, sig, hscope.symm, hreads', hreads⟩

/-- What twins are made of: the same parts, which are twins. -/
inductive TwinParts (t t' : Linker) : TypeRef → TypeRef → Prop
  | cls {c c' : ClassId} (h : TwinClass t t' c c') : TwinParts t t' (.cls c) (.cls c')
  | parameterized {c c' : ClassId} {types types' : List TypeRef} (h : TwinClass t t' c c')
      (harguments : List.Forall₂ (TwinType t t') types types') :
      TwinParts t t' (.parameterized c types) (.parameterized c' types')
  | variable {v v' : VarId} (h : TwinVar t t' v v') : TwinParts t t' (.variable v) (.variable v')
  | wildcard {upper upper' lower lower' : List TypeRef}
      (hupper : List.Forall₂ (TwinType t t') upper upper')
      (hlower : List.Forall₂ (TwinType t t') lower lower') :
      TwinParts t t' (.wildcard upper lower) (.wildcard upper' lower')
  | genericArray {type type' : TypeRef} {erasure erasure' : ClassId}
      (h : TwinType t t' type type') :
      TwinParts t t' (.genericArray type erasure) (.genericArray type' erasure')

/-- The bounds of twins are twins. -/
lemma TwinVar.forall₂_bounds {v v' : VarId} (h : TwinVar t t' v v') :
    List.Forall₂ (TwinType t t') (t.atlas.typeVar v).bounds (t'.atlas.typeVar v').bounds := by
  obtain ⟨-, scope, scope', p, hscope, -, hbounds, hbounds'⟩ := h
  refine (hbounds.of_common hbounds').imp ?_
  rintro type type' ⟨bound, -, ⟨-, hreads⟩, -, hreads'⟩
  exact ⟨scope, scope', bound, hscope, hreads, hreads'⟩

lemma TwinScope.forall₂_twinType (hscope : TwinScope t t' scope scope') {sigs : List TypeSig}
    {types types' : List TypeRef} (h : List.Forall₂ (Reads t scope) sigs types)
    (h' : List.Forall₂ (Reads t' scope') sigs types') :
    List.Forall₂ (TwinType t t') types types' := by
  refine (h.of_common h').imp ?_
  rintro type type' ⟨sig, -, hreads, hreads'⟩
  exact ⟨scope, scope', sig, hscope, hreads, hreads'⟩

namespace Alike

lemma parts (h : Alike t t') {type type' : TypeRef} (htype : TwinType t t' type type') :
    TwinParts t t' type type' := by
  obtain ⟨scope, scope', sig, hscope, hreads, hreads'⟩ := htype
  cases hreads with
  | cls hc =>
      cases hreads' with
      | cls hc' => exact .cls (h.twinClass hc hc')
  | parameterized hc harguments =>
      cases hreads' with
      | parameterized hc' harguments' =>
          exact .parameterized (h.twinClass hc hc') (hscope.forall₂_twinType
            (TypeSig.describesAll_iff.mp harguments) (TypeSig.describesAll_iff.mp harguments'))
  | «variable» hv =>
      cases hreads' with
      | «variable» hv' => exact .variable (h.twinVar hscope hv hv')
  | wildcard hupper hlower =>
      cases hreads' with
      | wildcard hupper' hlower' =>
          refine .wildcard ?_ ?_
          · exact hscope.forall₂_twinType (TypeSig.describesAll_iff.mp hupper)
              (TypeSig.describesAll_iff.mp hupper')
          · exact hscope.forall₂_twinType (TypeSig.describesAll_iff.mp hlower)
              (TypeSig.describesAll_iff.mp hlower')
  | genericArray hcomponent =>
      cases hreads' with
      | genericArray hcomponent' =>
          exact .genericArray ⟨scope, scope', _, hscope, hcomponent, hcomponent'⟩

/-- **Twins involve the same classes.** -/
theorem involves (h : Alike t t') {type type' : TypeRef} (hinvolves : t.atlas.Involves type c)
    (htype : TwinType t t' type type') :
    ∃ c', TwinClass t t' c c' ∧ t'.atlas.Involves type' c' := by
  -- by induction on where the class stands: it is the same part of the twin
  induction hinvolves generalizing type' with
  | cls c =>
      cases h.parts htype with
      | cls hc => exact ⟨_, hc, .cls _⟩
  | raw c arguments =>
      cases h.parts htype with
      | parameterized hc _ => exact ⟨_, hc, .raw _ _⟩
  | argument hmem _ ih =>
      cases h.parts htype with
      | parameterized _ harguments =>
          obtain ⟨part, hpart, htwin⟩ := harguments.exists_right hmem
          obtain ⟨c', hc, hinvolves'⟩ := ih htwin
          exact ⟨c', hc, .argument hpart hinvolves'⟩
  | bound hmem _ ih =>
      cases h.parts htype with
      | «variable» hv =>
          obtain ⟨part, hpart, htwin⟩ := hv.forall₂_bounds.exists_right hmem
          obtain ⟨c', hc, hinvolves'⟩ := ih htwin
          exact ⟨c', hc, .bound hpart hinvolves'⟩
  | upper hmem _ ih =>
      cases h.parts htype with
      | wildcard hupper _ =>
          obtain ⟨part, hpart, htwin⟩ := hupper.exists_right hmem
          obtain ⟨c', hc, hinvolves'⟩ := ih htwin
          exact ⟨c', hc, .upper hpart hinvolves'⟩
  | lower hmem _ ih =>
      cases h.parts htype with
      | wildcard _ hlower =>
          obtain ⟨part, hpart, htwin⟩ := hlower.exists_right hmem
          obtain ⟨c', hc, hinvolves'⟩ := ih htwin
          exact ⟨c', hc, .lower hpart hinvolves'⟩
  | component _ ih =>
      cases h.parts htype with
      | genericArray hcomponent =>
          obtain ⟨c', hc, hinvolves'⟩ := ih hcomponent
          exact ⟨c', hc, .component hinvolves'⟩

lemma hasArgument (h : Alike t t') {type type' : TypeRef} (hargument : t.atlas.HasArgument type c)
    (htype : TwinType t t' type type') :
    ∃ c', TwinClass t t' c c' ∧ t'.atlas.HasArgument type' c' := by
  induction hargument generalizing type' with
  | argument hmem hinvolves =>
      cases h.parts htype with
      | parameterized _ harguments =>
          obtain ⟨part, hpart, htwin⟩ := harguments.exists_right hmem
          obtain ⟨c', hc, hinvolves'⟩ := h.involves hinvolves htwin
          exact ⟨c', hc, .argument hpart hinvolves'⟩
  | component _ ih =>
      cases h.parts htype with
      | genericArray hcomponent =>
          obtain ⟨c', hc, hargument'⟩ := ih hcomponent
          exact ⟨c', hc, .component hargument'⟩

mutual

/-- **Twins are written alike.** -/
theorem typeName (h : Alike t t') : ∀ {type type' : TypeRef}, TwinType t t' type type' →
    t'.atlas.typeName type' = t.atlas.typeName type
  | .cls _, _, htype => by
      cases h.parts htype with
      | cls hc => exact hc.name
  | .parameterized _ _, _, htype => by
      cases h.parts htype with
      | parameterized hc harguments =>
          rw [Atlas.typeName, Atlas.typeName, hc.name, typeNames h harguments]
  | .variable _, _, htype => by
      cases h.parts htype with
      | «variable» hv => exact hv.name
  | .wildcard _ _, _, htype => by
      cases h.parts htype with
      | wildcard hupper hlower =>
          have hnames := typeNames h hupper
          have hnames' := typeNames h hlower
          cases hupper with
          | nil =>
            cases hlower with
            | nil => rfl
            | cons _ _ => simp only [Atlas.typeName, hnames']
          | cons _ _ => simp only [Atlas.typeName, hnames]
  | .genericArray _ _, _, htype => by
      cases h.parts htype with
      | genericArray hcomponent => rw [Atlas.typeName, Atlas.typeName, typeName h hcomponent]

theorem typeNames (h : Alike t t') : ∀ {types types' : List TypeRef},
    List.Forall₂ (TwinType t t') types types' →
    t'.atlas.typeNames types' = t.atlas.typeNames types
  | [], _, .nil => rfl
  | _ :: _, _, .cons htype htypes => by
      rw [Atlas.typeNames, Atlas.typeNames, typeName h htype, typeNames h htypes]

end

end Alike

end Linker

end ClassAtlas
