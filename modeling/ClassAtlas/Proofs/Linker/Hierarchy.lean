import ClassAtlas.Proofs.Linker.Edits
import ClassAtlas.Proofs.Record.Erasure

/-!
# Linking the hierarchy

* `KeepsMembers` — no member, no access and no annotation was touched.
* `Fresh` — the variables that declaring type parameters adds.
* `Declares A` — nothing but the enclosing classes and the type parameters of `A` was set.
* `Bounds A` — nothing that scopes depend on was set, other than the bounds of `A`.
* `Inherits A` — of all these, nothing was set but the supertypes of `A`.
* `ClassScope` — the enclosing class and the type parameters of a class are what its record says.
* `Inherited` — its supertypes are what its record says.
* `moves_hierarchyBody` — **the scopes and the supertypes of all imported classes are linked**.
-/

namespace ClassAtlas

namespace Linker

variable {F : Prop} {s t u : Linker}

/-- No member, no access and no annotation was touched. -/
structure KeepsMembers (s t : Linker) : Prop where
  steps : Steps s t
  members : ∀ c, (t.atlas.cls c).members = (s.atlas.cls c).members
  annotations : ∀ c, (t.atlas.cls c).annotations = (s.atlas.cls c).annotations
  memberTable : t.atlas.members = s.atlas.members
  accesses : t.atlas.accesses = s.atlas.accesses
  pending : t.pending = s.pending

instance : IsPreorder Linker KeepsMembers where
  refl _ := ⟨refl_of Steps _, fun _ => rfl, fun _ => rfl, rfl, rfl, rfl⟩
  trans _ _ _ h h' := ⟨trans_of Steps h.steps h'.steps,
    fun c => (h'.members c).trans (h.members c),
    fun c => (h'.annotations c).trans (h.annotations c), h'.memberTable.trans h.memberTable,
    h'.accesses.trans h.accesses, h'.pending.trans h.pending⟩

lemma Grows.keepsMembers (h : Grows s t) : KeepsMembers s t :=
  ⟨h.steps, h.atlas.classMembers, h.atlas.annotations, h.atlas.members, h.atlas.accesses,
    h.pending⟩

lemma KeepsMembers.member (h : KeepsMembers s t) (m : MemberId) :
    t.atlas.member m = s.atlas.member m := by
  rw [Atlas.member, Atlas.member, h.memberTable]

/-! ## Declaring type parameters -/

/-- The variables that were added for type parameters. -/
structure Fresh (s : Linker) (owner : VarOwner) (parameters : List TypeParam) (vars : List VarId)
    (t : Linker) : Prop where
  undeclared : t.undeclared = s.undeclared
  name : List.Forall₂ (fun p v => (t.atlas.typeVar v).name = p.name) parameters vars
  owner : ∀ v ∈ vars, (t.atlas.typeVar v).owner = owner
  new : ∀ v ∈ vars, s.atlas.typeVars.size ≤ v.index
  taken : ∀ v ∈ vars, v.index < t.atlas.typeVars.size
  nodup : vars.Nodup

lemma Fresh.declared {owner : VarOwner} {parameters : List TypeParam} {vars : List VarId}
    (h : Fresh s owner parameters vars t) (hs : s.WF) : ∀ v ∈ vars, Declared t v := by
  refine fun v hv => ⟨h.taken v hv, fun entry hentry heq => ?_⟩
  rw [h.undeclared] at hentry
  exact absurd (hs.undeclared entry hentry).taken (not_lt.mpr (heq ▸ h.new v hv))

theorem moves_declare {owner : VarOwner} (parameters : List TypeParam) (s : Linker)
    (howner : owner.Within s.atlas.extent) :
    Moves Grows F s (declare owner parameters) (Fresh s owner parameters) := by
  induction parameters generalizing s with
  | nil => exact moves_pure ⟨rfl, .nil, by simp, by simp, by simp, List.nodup_nil⟩
  | cons p parameters ih =>
      rw [declare, List.mapM_cons]
      refine (moves_addVariable p.name howner).bind fun id t hst hid => ?_
      refine (ih t (howner.mono hst.atlas.extent)).bind fun vars u htu hvars => moves_pure ?_
      have hnew : id.index < t.atlas.typeVars.size := by
        rw [hid.size, hid.last]
        exact Nat.lt_succ_self _
      have hvar := htu.atlas.typeVar id hnew
      refine ⟨hvars.undeclared.trans hid.undeclared, .cons (by rw [hvar, hid.name]) hvars.name,
        List.forall_mem_cons.mpr ⟨by rw [hvar, hid.owner], hvars.owner⟩,
        List.forall_mem_cons.mpr ⟨hid.last.ge, fun v hv => ?_⟩,
        List.forall_mem_cons.mpr ⟨hnew.trans_le htu.atlas.typeVarsSize, hvars.taken⟩,
        List.nodup_cons.mpr ⟨fun hmem => ?_, hvars.nodup⟩⟩
      · exact hst.atlas.typeVarsSize.trans (hvars.new v hv)
      · exact absurd hnew (not_lt.mpr (hvars.new id hmem))

/-- Nothing but the enclosing classes and the type parameters of `A` was set, and what was added are
stubs and variables. -/
structure Declares (A : Set ClassId) (s t : Linker) : Prop extends KeepsMembers s t where
  enclosingClass : ∀ c ∉ A, (t.atlas.cls c).enclosingClass = (s.atlas.cls c).enclosingClass
  typeParameters : ∀ c ∉ A, (t.atlas.cls c).typeParameters = (s.atlas.cls c).typeParameters
  supertypes : ∀ c, (t.atlas.cls c).supertypes = (s.atlas.cls c).supertypes
  typeVar : ∀ v : VarId, v.index < s.atlas.typeVars.size → t.atlas.typeVar v = s.atlas.typeVar v

instance (A : Set ClassId) : IsPreorder Linker (Declares A) where
  refl _ :=
    ⟨refl_of KeepsMembers _, fun _ _ => rfl, fun _ _ => rfl, fun _ => rfl, fun _ _ => rfl⟩
  trans _ _ _ h h' :=
    ⟨trans_of KeepsMembers h.toKeepsMembers h'.toKeepsMembers,
      fun c hc => (h'.enclosingClass c hc).trans (h.enclosingClass c hc),
      fun c hc => (h'.typeParameters c hc).trans (h.typeParameters c hc),
      fun c => (h'.supertypes c).trans (h.supertypes c),
      fun v hv => (h'.typeVar v (hv.trans_le h.steps.frame.typeVarsSize)).trans (h.typeVar v hv)⟩

lemma Declares.mono (A B : Set ClassId) (s t : Linker) (hAB : A ⊆ B) (h : Declares A s t) :
    Declares B s t :=
  ⟨h.toKeepsMembers, fun c hc => h.enclosingClass c fun hA => hc (hAB hA),
    fun c hc => h.typeParameters c fun hA => hc (hAB hA), h.supertypes, h.typeVar⟩

lemma Grows.declares {A : Set ClassId} (h : Grows s t) : Declares A s t :=
  ⟨h.keepsMembers, fun c _ => h.atlas.enclosingClass c, fun c _ => h.atlas.typeParameters c,
    h.atlas.supertypes, h.atlas.typeVar⟩

/-- A change of a class of `A`. -/
lemma Declares.of_modifyClass {id : ClassId} {change : ClassNode → ClassNode}
    (himported : (s.atlas.cls id).imported = true) (hsame : ∀ c, SamePlace c (change c))
    (hannotations : ∀ c, (change c).annotations = c.annotations)
    (hparameters : ∀ v ∈ (change (s.atlas.cls id)).typeParameters,
      v ∈ (s.atlas.cls id).typeParameters ∨ Declared s v)
    (henclosing : ∀ d ∈ (change (s.atlas.cls id)).enclosingClass,
      d ∈ (s.atlas.cls id).enclosingClass ∨ d.index < s.atlas.classes.size) :
    Declares {id} s { s with atlas := s.atlas.modifyClass id change } := by
  have hother : ∀ c ∉ ({id} : Set ClassId), (s.atlas.modifyClass id change).cls c = s.atlas.cls c :=
    fun c hc => by rw [Atlas.cls_modifyClass, if_neg fun h => hc h.1]
  have hedit : Edit s { s with atlas := s.atlas.modifyClass id change } := by
    refine .cls id change himported hsame hparameters fun hold => ?_
    refine (hsame _).within hold (fun v hv => (hparameters v hv).imp_right (·.1)) henclosing ?_
    exact fun x hx => Or.inl (hannotations _ ▸ hx)
  have hsupertypes : ∀ c, (change c).supertypes = c.supertypes := fun c => by
    rw [ClassNode.supertypes, (hsame c).superclass, (hsame c).interfaces]
    rfl
  exact ⟨⟨hedit.steps, Atlas.keep_modifyClass _ _ (fun c => (hsame c).members) id,
    Atlas.keep_modifyClass _ _ hannotations id, rfl, rfl, rfl⟩,
    fun c hc => by rw [hother c hc], fun c hc => by rw [hother c hc],
    Atlas.keep_modifyClass _ _ hsupertypes id, fun _ _ => rfl⟩

/-- The enclosing class and the type parameters of a class were set as its record says. -/
structure ClassDeclared (t : Linker) (id : ClassId) (answer : List VarId × List TypeParam) :
    Prop where
  parameters : answer.2 = t.context.typeParameters (t.atlas.cls id).name
  typeParameters : (t.atlas.cls id).typeParameters = answer.1
  name : List.Forall₂ (fun p v => (t.atlas.typeVar v).name = p.name) answer.2 answer.1
  owner : ∀ v ∈ answer.1, (t.atlas.typeVar v).owner = .cls id
  declared : ∀ v ∈ answer.1, Declared t v
  nodup : answer.1.Nodup
  enclosing : Option.Rel (fun n c => t.atlas.names.get? n = some c)
    (t.context.enclosingClass (t.atlas.cls id).name) (t.atlas.cls id).enclosingClass

lemma ClassDeclared.declares {id : ClassId} {answer : List VarId × List TypeParam}
    {A : Set ClassId} (h : ClassDeclared t id answer) (hid : id.index < t.atlas.classes.size)
    (htu : Declares A t u) (hA : id ∉ A) : ClassDeclared u id answer := by
  have hframe := htu.steps.frame
  have hname := hframe.className hid
  have hvar : ∀ v ∈ answer.1, u.atlas.typeVar v = t.atlas.typeVar v :=
    fun v hv => htu.typeVar v (h.declared v hv).1
  refine ⟨by rw [hframe.context, hname]; exact h.parameters,
    (htu.typeParameters id hA).trans h.typeParameters,
    h.name.imp_mem fun p _ v hv hp => by rw [hvar v hv]; exact hp,
    fun v hv => by rw [hvar v hv]; exact h.owner v hv,
    fun v hv => hframe.declared v (h.declared v hv), h.nodup, ?_⟩
  rw [hframe.context, hname, htu.enclosingClass id hA]
  exact h.enclosing.imp fun n c hn => hframe.names n c hn

/-- The enclosing class of a class is set to what a name stands for. -/
def enclose (id : ClassId) : Option String → LinkM Unit
  | none => pure ()
  | some name => do
    let enclosing ← intern name
    modifyAtlas fun a => a.modifyClass id fun c => { c with enclosingClass := some enclosing }

/-- The type parameters of a class are declared. -/
def declareParameters (id : ClassId) (parameters : List TypeParam) :
    LinkM (List VarId × List TypeParam) := do
  let declared ← declare (.cls id) parameters
  modifyAtlas fun a => a.modifyClass id fun c => { c with typeParameters := declared }
  return (declared, parameters)

lemma declareClass_eq (id : ClassId) : declareClass id = (do
    let name ← nameOf id
    let context := (← get).context
    enclose id (context.enclosingClass name)
    declareParameters id (context.typeParameters name)) := by
  unfold declareClass
  congr 1
  funext name
  congr 1
  funext s
  dsimp only
  rcases s.context.enclosingClass name with _ | enclosing
  · rfl
  · simp only [enclose, bind_assoc]
    rfl

lemma moves_enclose {id : ClassId} {name : Option String} (hs : s.WF)
    (himported : (s.atlas.cls id).imported = true)
    (hnone : (s.atlas.cls id).enclosingClass = none)
    (hF : ∀ n, name = some n → Registry.readable n.toList = false → F) :
    Moves (Declares {id}) F s (enclose id name) fun _ t =>
      Option.Rel (fun n c => t.atlas.names.get? n = some c) name
        (t.atlas.cls id).enclosingClass := by
  rcases name with _ | n
  · refine moves_pure ?_
    rw [hnone]
    exact .none
  · rw [enclose]
    refine ((moves_intern (hF n rfl)).along fun t => Grows.declares).bind fun e t hst he => ?_
    have himported' := (hst.steps.frame.isImported id).trans himported
    refine moves_modifyAtlas (Declares.of_modifyClass himported'
      (fun _ => ⟨rfl, rfl, rfl, rfl, rfl⟩) (fun _ => rfl) (fun v hv => Or.inl hv) ?_) ?_
    · rintro d hd
      cases hd
      exact Or.inr ((hst.steps.wf hs).named.inRange he)
    rw [Atlas.cls_modifyClass, if_pos ⟨rfl, Atlas.lt_of_imported himported'⟩]
    exact .some he

lemma moves_declareParameters {id : ClassId} {parameters : List TypeParam} (hs : s.WF)
    (himported : (s.atlas.cls id).imported = true)
    (hparameters : parameters = s.context.typeParameters (s.atlas.cls id).name)
    (henclosing : Option.Rel (fun n c => s.atlas.names.get? n = some c)
      (s.context.enclosingClass (s.atlas.cls id).name) (s.atlas.cls id).enclosingClass) :
    Moves (Declares {id}) F s (declareParameters id parameters) fun answer t =>
      ClassDeclared t id answer := by
  have howner : (VarOwner.cls id).Within s.atlas.extent := Atlas.lt_of_imported himported
  refine (moves_declare parameters s howner).bind_along (fun t => Grows.declares)
    fun vars t hst hvars => ?_
  have hframe := hst.frame
  have hdeclared := hvars.declared hs
  have himported' := (hframe.isImported id).trans himported
  have hcls := Atlas.cls_modifyClass t.atlas id (fun c => { c with typeParameters := vars }) id
  rw [if_pos ⟨rfl, Atlas.lt_of_imported himported'⟩] at hcls
  have hname : ((t.atlas.modifyClass id fun c => { c with typeParameters := vars }).cls id).name =
      (s.atlas.cls id).name := by
    rw [hcls]
    exact hframe.className (Atlas.lt_of_imported himported)
  refine (moves_modifyAtlas (Q := fun _ u => ClassDeclared u id (vars, parameters)) ?_
    ⟨?_, by rw [hcls], hvars.name, hvars.owner, hdeclared, hvars.nodup, ?_⟩).bind
    fun _ u _ hu => moves_pure hu
  · exact Declares.of_modifyClass himported' (fun _ => ⟨rfl, rfl, rfl, rfl, rfl⟩) (fun _ => rfl)
      (fun v hv => Or.inr (hdeclared v hv)) fun d hd => Or.inl hd
  · rw [hname]
    exact hparameters.trans (by rw [hframe.context])
  · rw [hname, hcls]
    change Option.Rel _ (t.context.enclosingClass _) (t.atlas.cls id).enclosingClass
    rw [hframe.context, hst.atlas.enclosingClass]
    exact henclosing.imp fun n c hn => hframe.names n c hn

/-- **Declaring a class** sets its enclosing class and its type parameters. -/
theorem moves_declareClass {id : ClassId} (hs : s.WF)
    (himported : (s.atlas.cls id).imported = true)
    (hnone : (s.atlas.cls id).enclosingClass = none)
    (hF : ∀ n, s.context.Mentions n → Registry.readable n.toList = false → F) :
    Moves (Declares {id}) F s (declareClass id) fun answer t => ClassDeclared t id answer := by
  rw [declareClass_eq]
  refine (moves_nameOf id).bind fun name t _ hname => ?_
  obtain ⟨rfl, rfl⟩ := hname
  refine moves_get_bind ?_
  refine (moves_enclose hs himported hnone fun n hn => hF n (.enclosing hn)).bind
    fun _ u htu he => ?_
  have hframe := htu.steps.frame
  have hname := hframe.className (Atlas.lt_of_imported himported)
  refine moves_declareParameters (htu.steps.wf hs) ((hframe.isImported id).trans himported) ?_ ?_
  · rw [hframe.context, hname]
  · rwa [hframe.context, hname]

/-! ## Linking bounds -/

/-- Of what scopes depend on, nothing was set but the bounds of `A`. -/
structure Bounds (A : Set VarId) (s t : Linker) : Prop extends KeepsMembers s t where
  supertypes : ∀ c, (t.atlas.cls c).supertypes = (s.atlas.cls c).supertypes
  enclosingClass : ∀ c, (t.atlas.cls c).enclosingClass = (s.atlas.cls c).enclosingClass
  typeParameters : ∀ c, (t.atlas.cls c).typeParameters = (s.atlas.cls c).typeParameters
  typeVar : ∀ v : VarId, v.index < s.atlas.typeVars.size → v ∉ A →
    t.atlas.typeVar v = s.atlas.typeVar v

instance (A : Set VarId) : IsPreorder Linker (Bounds A) where
  refl _ :=
    ⟨refl_of KeepsMembers _, fun _ => rfl, fun _ => rfl, fun _ => rfl, fun _ _ _ => rfl⟩
  trans _ _ _ h h' :=
    ⟨trans_of KeepsMembers h.toKeepsMembers h'.toKeepsMembers,
      fun c => (h'.supertypes c).trans (h.supertypes c),
      fun c => (h'.enclosingClass c).trans (h.enclosingClass c),
      fun c => (h'.typeParameters c).trans (h.typeParameters c),
      fun v hv hA => (h'.typeVar v (hv.trans_le h.steps.frame.typeVarsSize) hA).trans
        (h.typeVar v hv hA)⟩

lemma Bounds.mono (A B : Set VarId) (s t : Linker) (hAB : A ⊆ B) (h : Bounds A s t) :
    Bounds B s t :=
  ⟨h.toKeepsMembers, h.supertypes, h.enclosingClass, h.typeParameters,
    fun v hv hB => h.typeVar v hv fun hA => hB (hAB hA)⟩

lemma Grows.bounds {A : Set VarId} (h : Grows s t) : Bounds A s t :=
  ⟨h.keepsMembers, h.atlas.supertypes, h.atlas.enclosingClass, h.atlas.typeParameters,
    fun v hv _ => h.atlas.typeVar v hv⟩

lemma Bounds.same {A : Set VarId} (h : Bounds A s t) (scope : Scope) :
    scope.Same s.atlas t.atlas :=
  ⟨h.steps.frame.classesSize, h.enclosingClass, h.typeParameters,
    fun m _ => by rw [h.member], h.steps.frame.variableName⟩

/-- A signature that can be a bound goes on corresponding to its type, whatever other variables are
bounded by. -/
lemma Links.of_isBound {scope : Scope} {sig : TypeSig} {type : TypeRef}
    (h : Links t scope sig type) (hsig : sig.IsBound) (ht : t.WF) (hframe : Frame t u)
    (hsame : scope.Same t.atlas u.atlas) : Links u scope sig type := by
  cases h with
  | cls h => exact .cls (hframe.names _ _ h)
  | parameterized h => exact .parameterized (hframe.names _ _ h)
  | declared h => exact .declared (by rwa [hsame.find? ht.closed])
  | undeclared h hv => exact .undeclared (by rwa [hsame.find? ht.closed]) (hframe.undeclared hv)
  | unbounded => exact hsig.elim
  | bounded _ => exact hsig.elim
  | genericArray _ _ _ => exact hsig.elim

/-- A signature goes on describing its type. -/
lemma Reads.of_same {scope : Scope} {sig : TypeSig} {type : TypeRef} (h : Reads t scope sig type)
    (ht : t.WF) (hframe : Frame t u) (hsame : scope.Same t.atlas u.atlas) :
    Reads u scope sig type :=
  h.imp (fun n id hn => hframe.names n id hn) fun _ _ hv =>
    hv.of_isBound trivial ht hframe hsame

/-- The bounds of a variable are those of a type parameter. -/
def BoundsLinked (t : Linker) (scope : Scope) (p : TypeParam) (v : VarId) : Prop :=
  List.Forall₂ (fun bound type =>
      (bound.IsBound → Links t scope bound type) ∧ Reads t scope bound type) p.bounds
    (t.atlas.typeVar v).bounds

lemma BoundsLinked.of_same {scope : Scope} {p : TypeParam} {v : VarId}
    (h : BoundsLinked t scope p v) (ht : t.WF) (hframe : Frame t u)
    (hsame : scope.Same t.atlas u.atlas) (hv : u.atlas.typeVar v = t.atlas.typeVar v) :
    BoundsLinked u scope p v := by
  rw [BoundsLinked, hv]
  refine h.imp fun bound type ⟨hlinks, hreads⟩ => ⟨fun hbound => ?_, hreads.of_same ht hframe hsame⟩
  exact (hlinks hbound).of_isBound hbound ht hframe hsame

/-- Linking the bounds of one type parameter. -/
lemma moves_linkBound {scope : Scope} {v : VarId} {p : TypeParam} (hs : s.WF)
    (hscope : scope.owner.Within s.atlas.extent) (hv : Declared s v)
    (hF : ∀ n ∈ p.names, Registry.readable n.toList = false → F) :
    Moves (Bounds {v}) F s (do
      let bounds ← linkTypes scope p.bounds
      modifyAtlas fun a => a.setBounds v bounds) fun _ t =>
      Declared t v ∧ BoundsLinked t scope p v := by
  refine ((moves_linkTypes scope p.bounds s hs hscope hF).along fun t => Grows.bounds).bind
    fun types t hst htypes => ?_
  have hdeclared := hst.steps.frame.declared v hv
  have hset : Bounds {v} t { t with atlas := t.atlas.setBounds v types } := by
    refine ⟨⟨(Edit.bounds v types hdeclared (TypeLinked.forall_fits htypes)).steps, fun _ => rfl,
      fun _ => rfl, rfl, rfl, rfl⟩, fun _ => rfl, fun _ => rfl, fun _ => rfl, fun w _ hw => ?_⟩
    rw [Atlas.typeVar_setBounds, if_neg fun h => hw h.1]
  refine moves_modifyAtlas hset ⟨hset.steps.frame.declared v hdeclared, ?_⟩
  rw [BoundsLinked, Atlas.typeVar_setBounds, if_pos ⟨rfl, hdeclared.1⟩]
  have ht := hst.steps.wf hs
  refine htypes.imp fun bound type htype => ⟨fun hbound => ?_, ?_⟩
  · exact htype.links.of_isBound hbound ht hset.steps.frame (hset.same scope)
  · exact htype.reads.of_same ht hset.steps.frame (hset.same scope)

theorem moves_linkBounds {scope : Scope} {vars : List VarId} {parameters : List TypeParam}
    (hs : s.WF) (hscope : scope.owner.Within s.atlas.extent)
    (hlength : parameters.length = vars.length) (hdeclared : ∀ v ∈ vars, Declared s v)
    (hnodup : vars.Nodup)
    (hF : ∀ n ∈ parameters.flatMap TypeParam.names, Registry.readable n.toList = false → F) :
    Moves (Bounds {v | v ∈ vars}) F s (linkBounds scope vars parameters) fun _ t =>
      List.Forall₂ (BoundsLinked t scope) parameters vars := by
  have hfst : (vars.zip parameters).map Prod.fst = vars := List.map_fst_zip hlength.ge
  have hdisjoint : (vars.zip parameters).Pairwise
      fun e e' => Disjoint ({e.1} : Set VarId) {e'.1} := by
    rw [← hfst] at hnodup
    exact (List.pairwise_map.mp hnodup).imp fun hne => Set.disjoint_singleton.mpr hne
  have hloop : Moves (Bounds (⋃ e ∈ vars.zip parameters, {e.1})) F s
      (linkBounds scope vars parameters) fun _ t => ∀ e ∈ vars.zip parameters,
        Declared t e.1 ∧ BoundsLinked t scope e.2 e.1 := by
    refine Moves.forM_disjoint Bounds.mono hdisjoint (fun e t u A hst h htu hA => ?_)
      fun e he t _ hst _ => ?_
    · obtain ⟨hv, hlinked⟩ := h
      have hframe := htu.steps.frame
      refine ⟨hframe.declared _ hv, hlinked.of_same (hst.steps.wf hs) hframe (htu.same scope) ?_⟩
      exact htu.typeVar _ hv.1 (Set.disjoint_singleton_left.mp hA)
    · obtain ⟨hv, hp⟩ := List.of_mem_zip he
      exact moves_linkBound (hst.steps.wf hs) (hscope.mono hst.steps.frame.extent)
        (hst.steps.frame.declared _ (hdeclared _ hv)) fun n hn =>
          hF n (List.mem_flatMap_of_mem hp hn)
  refine (hloop.along fun t => Bounds.mono _ _ _ _ ?_).mono fun _ t _ hall => ?_
  · exact Set.iUnion₂_subset fun e he => Set.singleton_subset_iff.mpr (List.of_mem_zip he).1
  · refine List.Forall₂.flip (List.forall₂_iff_zip.mpr ⟨hlength.symm, fun {v p} hmem => ?_⟩)
    exact (hall (v, p) hmem).2

/-! ## Supertypes -/

lemma moves_mapM_linkType {scope : Scope} (sig : Option TypeSig) (hs : s.WF)
    (hscope : scope.owner.Within s.atlas.extent)
    (hF : ∀ sig' ∈ sig, ∀ n ∈ sig'.names, Registry.readable n.toList = false → F) :
    Moves Grows F s (sig.mapM (linkType scope)) fun type t =>
      Option.Rel (TypeLinked t scope) sig type := by
  cases sig with
  | none => exact moves_pure .none
  | some sig =>
      change Moves Grows F s (some <$> linkType scope sig) _
      rw [map_eq_pure_bind]
      exact (moves_linkType scope sig s hs hscope (hF sig rfl)).bind
        fun type t _ htype => moves_pure (.some htype)

/-- Of what scopes and supertypes depend on, nothing was set but the supertypes of `A`. -/
structure Inherits (A : Set ClassId) (s t : Linker) : Prop extends KeepsMembers s t where
  supertypes : ∀ c ∉ A, (t.atlas.cls c).supertypes = (s.atlas.cls c).supertypes
  enclosingClass : ∀ c, (t.atlas.cls c).enclosingClass = (s.atlas.cls c).enclosingClass
  typeParameters : ∀ c, (t.atlas.cls c).typeParameters = (s.atlas.cls c).typeParameters
  typeVar : ∀ v : VarId, v.index < s.atlas.typeVars.size → t.atlas.typeVar v = s.atlas.typeVar v

instance (A : Set ClassId) : IsPreorder Linker (Inherits A) where
  refl _ :=
    ⟨refl_of KeepsMembers _, fun _ _ => rfl, fun _ => rfl, fun _ => rfl, fun _ _ => rfl⟩
  trans _ _ _ h h' :=
    ⟨trans_of KeepsMembers h.toKeepsMembers h'.toKeepsMembers,
      fun c hc => (h'.supertypes c hc).trans (h.supertypes c hc),
      fun c => (h'.enclosingClass c).trans (h.enclosingClass c),
      fun c => (h'.typeParameters c).trans (h.typeParameters c),
      fun v hv => (h'.typeVar v (hv.trans_le h.steps.frame.typeVarsSize)).trans (h.typeVar v hv)⟩

lemma Inherits.mono (A B : Set ClassId) (s t : Linker) (hAB : A ⊆ B) (h : Inherits A s t) :
    Inherits B s t :=
  ⟨h.toKeepsMembers, fun c hc => h.supertypes c fun hA => hc (hAB hA), h.enclosingClass,
    h.typeParameters, h.typeVar⟩

lemma Grows.inherits {A : Set ClassId} (h : Grows s t) : Inherits A s t :=
  ⟨h.keepsMembers, fun c _ => h.atlas.supertypes c, h.atlas.enclosingClass, h.atlas.typeParameters,
    h.atlas.typeVar⟩

lemma Inherits.same {A : Set ClassId} (h : Inherits A s t) (scope : Scope) :
    scope.Same s.atlas t.atlas :=
  ⟨h.steps.frame.classesSize, h.enclosingClass, h.typeParameters,
    fun m _ => by rw [h.member], h.steps.frame.variableName⟩

lemma Inherits.keeps {A : Set ClassId} (h : Inherits A s t) (scope : Scope) : scope.Keeps s t :=
  ⟨h.same scope, h.steps.frame.names, h.steps.frame.undeclared,
    fun _ hc => h.steps.frame.className hc, h.steps.frame.typeVarsSize, h.typeVar⟩

/-- The supertypes of a class are set. -/
lemma Inherits.of_setSupertypes {id : ClassId} {superclass : Option TypeRef}
    {interfaces : List TypeRef} (himported : (s.atlas.cls id).imported = true)
    (hfits : ∀ type ∈ superclass.toList ++ interfaces, Fits s type)
    (hnew : (s.atlas.cls id).supertypes = (none, [])) :
    Inherits {id} s { s with atlas := setSupertypes id superclass interfaces s.atlas } := by
  obtain ⟨-, hframe⟩ := setSupertypes_frame id superclass interfaces s.atlas
  refine ⟨⟨(Edit.supertypes id superclass interfaces himported hfits hnew).steps, fun c => ?_,
    fun c => ?_, by rw [hframe], by rw [hframe], rfl⟩, fun c hc => ?_, fun c => ?_, fun c => ?_,
    fun w _ => by rw [hframe]; rfl⟩
  · exact keep_setSupertypes ClassNode.members (fun _ _ => rfl) (fun _ _ _ => rfl) ..
  · exact keep_setSupertypes ClassNode.annotations (fun _ _ => rfl) (fun _ _ _ => rfl) ..
  · exact keep_setSupertypes_of_ne ClassNode.supertypes (fun _ _ => rfl) hc ..
  · exact keep_setSupertypes ClassNode.enclosingClass (fun _ _ => rfl) (fun _ _ _ => rfl) ..
  · exact keep_setSupertypes ClassNode.typeParameters (fun _ _ => rfl) (fun _ _ _ => rfl) ..

/-- The supertypes of a class are what its record says. -/
structure Inherited (t : Linker) (c : ClassId) : Prop where
  superclass : Option.Rel (TypeLinked t { cls := c })
    (t.context.superclass (t.atlas.cls c).name) (t.atlas.cls c).superclass
  interfaces : List.Forall₂ (TypeLinked t { cls := c })
    (t.context.interfaces (t.atlas.cls c).name) (t.atlas.cls c).interfaces

lemma Inherited.keeps {c : ClassId} (h : Inherited t c) (ht : t.WF)
    (hc : c.index < t.atlas.classes.size) (hframe : Frame t u)
    (hkeeps : Scope.Keeps { cls := c } t u)
    (hsupertypes : (u.atlas.cls c).supertypes = (t.atlas.cls c).supertypes) : Inherited u c := by
  have hsuperclass : (u.atlas.cls c).superclass = (t.atlas.cls c).superclass :=
    congrArg Prod.fst hsupertypes
  have hinterfaces : (u.atlas.cls c).interfaces = (t.atlas.cls c).interfaces :=
    congrArg Prod.snd hsupertypes
  constructor
  · rw [hframe.context, hframe.className hc, hsuperclass]
    exact h.superclass.imp fun _ _ htype => htype.keeps ht hkeeps
  · rw [hframe.context, hframe.className hc, hinterfaces]
    exact h.interfaces.imp fun _ _ htype => htype.keeps ht hkeeps

/-- **Linking the supertypes of a class** sets them to what its record says. -/
theorem moves_linkSupertypes {id : ClassId} (hs : s.WF)
    (himported : (s.atlas.cls id).imported = true)
    (hnew : (s.atlas.cls id).supertypes = (none, []))
    (hF : ∀ n, s.context.Mentions n → Registry.readable n.toList = false → F) :
    Moves (Inherits {id}) F s (linkSupertypes id) fun _ t => Inherited t id := by
  unfold linkSupertypes
  refine (moves_nameOf id).bind fun name t _ hname => ?_
  obtain ⟨rfl, rfl⟩ := hname
  refine moves_get_bind ?_
  have hscope : Scope.owner { cls := id } |>.Within t.atlas.extent := Atlas.lt_of_imported himported
  refine (moves_mapM_linkType _ hs hscope
    fun sig hsig n hn => hF n (.superclass hsig hn)).bind_along (fun u => Grows.inherits)
    fun superclass u hsu hsuper => ?_
  have hu := hsu.wf hs
  refine (moves_linkTypes _ _ u hu (hscope.mono hsu.atlas.extent)
    fun n hn => hF n (.interfaces hn)).bind_along (fun v => Grows.inherits)
    fun interfaces v huv hinterfaces => ?_
  have hv := huv.wf hu
  have hsuper := hsuper.imp fun _ _ h => h.grows hu huv
  have hfits : ∀ type ∈ superclass.toList ++ interfaces, Fits v type := by
    intro type htype
    rcases List.mem_append.mp htype with h | h
    · rw [Option.mem_toList.mp h] at hsuper
      obtain ⟨sig, -, hlinked⟩ := hsuper.exists_left
      exact hlinked.fits
    · exact TypeLinked.forall_fits hinterfaces type h
  have hframe := (hsu.trans huv).frame
  have himported' := (hframe.isImported id).trans himported
  have hid := Atlas.lt_of_imported himported'
  have hinherited : ∀ w, Inherits {id} v w →
      (w.atlas.cls id).supertypes = (superclass, interfaces) → Inherited w id := by
    intro w hvw hsupertypes
    have hframe' := hvw.steps.frame
    have hcontext := hframe'.context.trans hframe.context
    have hname := (hframe'.className hid).trans (hframe.className (Atlas.lt_of_imported himported))
    have hsuperclass : (w.atlas.cls id).superclass = superclass := congrArg Prod.fst hsupertypes
    have hinterfaces' : (w.atlas.cls id).interfaces = interfaces := congrArg Prod.snd hsupertypes
    constructor
    · rw [hname, hcontext, hsuperclass]
      exact hsuper.imp fun _ _ h => h.keeps hv (hvw.keeps _)
    · rw [hname, hcontext, hinterfaces']
      exact hinterfaces.imp fun _ _ h => h.keeps hv (hvw.keeps _)
  have hnew' := ((hsu.trans huv).atlas.supertypes id).trans hnew
  have hset := Inherits.of_setSupertypes himported' hfits hnew'
  exact moves_modifyAtlas hset (hinherited _ hset (supertypes_setSupertypes hid ..))

/-! ## The phase -/

/-- The enclosing class and the type parameters of a class are what its record says. -/
structure ClassScope (t : Linker) (c : ClassId) : Prop where
  enclosing : Option.Rel (fun n e => t.atlas.names.get? n = some e)
    (t.context.enclosingClass (t.atlas.cls c).name) (t.atlas.cls c).enclosingClass
  name : List.Forall₂ (fun p v => (t.atlas.typeVar v).name = p.name)
    (t.context.typeParameters (t.atlas.cls c).name) (t.atlas.cls c).typeParameters
  bounds : List.Forall₂ (BoundsLinked t { cls := c })
    (t.context.typeParameters (t.atlas.cls c).name) (t.atlas.cls c).typeParameters

/-- A class keeps its scope as long as variables keep their bounds. -/
lemma ClassScope.of_same {c : ClassId} (h : ClassScope t c) (ht : t.WF)
    (hc : c.index < t.atlas.classes.size) (hframe : Frame t u)
    (hsame : Scope.Same { cls := c } t.atlas u.atlas)
    (hvar : ∀ v ∈ (t.atlas.cls c).typeParameters, u.atlas.typeVar v = t.atlas.typeVar v) :
    ClassScope u c := by
  have hname := hframe.className hc
  constructor
  · rw [hframe.context, hname, hsame.enclosingClass]
    exact h.enclosing.imp fun n e hn => hframe.names n e hn
  · rw [hframe.context, hname, hsame.classParameters]
    exact h.name.imp_mem fun p _ v hv hp => by rw [hvar v hv]; exact hp
  · rw [hframe.context, hname, hsame.classParameters]
    exact h.bounds.imp_mem fun p _ v hv hp => hp.of_same ht hframe hsame (hvar v hv)

/-- The hierarchy is linked, once the phase was checked. -/
def hierarchyBody : LinkM Unit := do
  let imported := (← get).atlas.imported.toList
  let declared ← imported.mapM fun id => return (id, ← declareClass id)
  declared.forM fun (id, vars, parameters) => linkBounds { cls := id } vars parameters
  imported.forM linkSupertypes

lemma linkHierarchy_eq : linkHierarchy = (do advance .created .hierarchy; hierarchyBody) :=
  rfl

/-- What was answered for a class when all classes were declared. -/
def DeclaredAs (t : Linker) (id : ClassId) (answer : ClassId × List VarId × List TypeParam) :
    Prop :=
  answer.1 = id ∧ id.index < t.atlas.classes.size ∧ ClassDeclared t id answer.2

/-- All classes of a list are declared. -/
lemma moves_mapM_declareClass {ids : List ClassId} (hs : s.WF) (hnodup : ids.Nodup)
    (himported : ∀ c ∈ ids, (s.atlas.cls c).imported = true)
    (hnone : ∀ c, (s.atlas.cls c).enclosingClass = none)
    (hF : ∀ n, s.context.Mentions n → Registry.readable n.toList = false → F) :
    Moves (Declares {c | c ∈ ids}) F s (ids.mapM fun id => return (id, ← declareClass id))
      fun answers t => List.Forall₂ (DeclaredAs t) ids answers := by
  have hdisjoint : ids.Pairwise fun c d => Disjoint ({c} : Set ClassId) {d} :=
    hnodup.imp fun hne => Set.disjoint_singleton.mpr hne
  refine (Moves.mapM_disjoint (P := fun id answer t => DeclaredAs t id answer) Declares.mono
    hdisjoint (fun id answer t u A _ h htu hA => ?_) fun id hid t A hst hA => ?_).along
    fun t => Declares.mono _ _ _ _ ?_
  · obtain ⟨heq, hid, hdeclared⟩ := h
    exact ⟨heq, hid.trans_le htu.steps.frame.classesSize,
      hdeclared.declares hid htu (Set.disjoint_singleton_left.mp hA)⟩
  · have hframe := hst.steps.frame
    have himported' := (hframe.isImported id).trans (himported id hid)
    have hnone' : (t.atlas.cls id).enclosingClass = none := by
      rw [hst.enclosingClass id (Set.disjoint_singleton_left.mp hA)]
      exact hnone id
    refine (moves_declareClass (hst.steps.wf hs) himported' hnone' fun n hn =>
      hF n (hframe.context ▸ hn)).bind fun answer u htu hanswer => moves_pure ?_
    exact ⟨rfl, (Atlas.lt_of_imported himported').trans_le htu.steps.frame.classesSize, hanswer⟩
  · exact Set.iUnion₂_subset fun c hc => Set.singleton_subset_iff.mpr hc

/-- The variables of different classes are different: they have different owners. -/
lemma pairwise_disjoint_vars {ids : List ClassId}
    {answers : List (ClassId × List VarId × List TypeParam)} (hnodup : ids.Nodup)
    (h : List.Forall₂ (DeclaredAs t) ids answers) :
    answers.Pairwise fun e e' => Disjoint {v | v ∈ e.2.1} {v | v ∈ e'.2.1} := by
  have howner : ∀ e ∈ answers, ∀ v ∈ e.2.1, (t.atlas.typeVar v).owner = .cls e.1 := by
    intro e he v hv
    obtain ⟨id, -, rfl, -, hdeclared⟩ := h.exists_left he
    exact hdeclared.owner v hv
  have hids : answers.map Prod.fst = ids := by
    clear hnodup howner
    induction h with
    | nil => rfl
    | cons hx _ ih => rw [List.map_cons, ih, hx.1]
  rw [← hids] at hnodup
  refine (List.pairwise_map.mp hnodup).imp_of_mem fun {e e'} he he' hne => ?_
  refine Set.disjoint_left.mpr fun v hv hv' => hne ?_
  have heq := (howner e he v hv).symm.trans (howner e' he' v hv')
  exact VarOwner.cls.inj heq

/-- The bounds of the variables of all classes are linked. -/
lemma moves_forM_linkBounds {ids : List ClassId}
    {answers : List (ClassId × List VarId × List TypeParam)} (hs : s.WF) (hnodup : ids.Nodup)
    (h : List.Forall₂ (DeclaredAs s) ids answers)
    (hF : ∀ n, s.context.Mentions n → Registry.readable n.toList = false → F) :
    Moves (Bounds Set.univ) F s
      (answers.forM fun (id, vars, parameters) => linkBounds { cls := id } vars parameters)
      fun _ t => ∀ e ∈ answers, (∀ v ∈ e.2.1, Declared t v) ∧
        List.Forall₂ (BoundsLinked t { cls := e.1 }) e.2.2 e.2.1 := by
  refine (Moves.forM_disjoint Bounds.mono (pairwise_disjoint_vars hnodup h)
    (fun e t u A hst he htu hA => ?_) fun e he t A hst hA => ?_).along
    fun t => Bounds.mono _ _ _ _ (Set.subset_univ _)
  · obtain ⟨hdeclared, hbounds⟩ := he
    have hframe := htu.steps.frame
    refine ⟨fun v hv => hframe.declared v (hdeclared v hv), hbounds.imp_mem fun p _ v hv hp => ?_⟩
    exact hp.of_same (hst.steps.wf hs) hframe (htu.same _)
      (htu.typeVar v (hdeclared v hv).1 (Set.disjoint_left.mp hA hv))
  · obtain ⟨id, -, rfl, hid, hclass⟩ := h.exists_left he
    have hframe := hst.steps.frame
    have hscope : Scope.owner { cls := e.1 } |>.Within t.atlas.extent :=
      hid.trans_le hframe.classesSize
    have hdeclared : ∀ v ∈ e.2.1, Declared t v :=
      fun v hv => hframe.declared v (hclass.declared v hv)
    refine (moves_linkBounds (hst.steps.wf hs) hscope hclass.name.length_eq hdeclared hclass.nodup
      fun n hn => ?_).mono fun _ u htu hu =>
        ⟨fun v hv => htu.steps.frame.declared v (hdeclared v hv), hu⟩
    obtain ⟨p, hp, hn⟩ := List.mem_flatMap.mp hn
    exact hF n (.typeParameters (hclass.parameters ▸ hp) hn)

/-- A class that was declared has its scope linked once the bounds of its variables are. -/
lemma ClassDeclared.classScope {A : Set VarId} {c : ClassId} {answer : List VarId × List TypeParam}
    (h : ClassDeclared t c answer) (hc : c.index < t.atlas.classes.size) (htu : Bounds A t u)
    (hbounds : List.Forall₂ (BoundsLinked u { cls := c }) answer.2 answer.1) : ClassScope u c := by
  have hframe := htu.steps.frame
  have hname := hframe.className hc
  constructor
  · rw [hframe.context, hname, htu.enclosingClass]
    exact h.enclosing.imp fun n e hn => hframe.names n e hn
  · rw [hframe.context, hname, htu.typeParameters, h.typeParameters, ← h.parameters]
    refine h.name.imp_mem fun p _ v hv hp => ?_
    rw [hframe.variableName v (h.declared v hv).1]
    exact hp
  · rwa [hframe.context, hname, htu.typeParameters, h.typeParameters, ← h.parameters]

/-- The supertypes of all classes of a list are linked. -/
lemma moves_forM_linkSupertypes {ids : List ClassId} (hs : s.WF) (hnodup : ids.Nodup)
    (himported : ∀ c ∈ ids, (s.atlas.cls c).imported = true)
    (hnew : ∀ c, (s.atlas.cls c).supertypes = (none, []))
    (hF : ∀ n, s.context.Mentions n → Registry.readable n.toList = false → F) :
    Moves (Inherits Set.univ) F s (ids.forM linkSupertypes) fun _ t =>
      ∀ c ∈ ids, Inherited t c := by
  have hdisjoint : ids.Pairwise fun c d => Disjoint ({c} : Set ClassId) {d} :=
    hnodup.imp fun hne => Set.disjoint_singleton.mpr hne
  refine ((Moves.forM_disjoint (P := fun c t => (t.atlas.cls c).imported = true ∧ Inherited t c)
    Inherits.mono hdisjoint (fun c t u A hst h htu hA => ?_) fun c hc t A hst hA => ?_).mono
    fun _ t _ h c hc => (h c hc).2).along fun t => Inherits.mono _ _ _ _ (Set.subset_univ _)
  · obtain ⟨hc, hinherited⟩ := h
    have hframe := htu.steps.frame
    exact ⟨(hframe.isImported c).trans hc,
      hinherited.keeps (hst.steps.wf hs) (Atlas.lt_of_imported hc) hframe (htu.keeps _)
        (htu.supertypes c (Set.disjoint_singleton_left.mp hA))⟩
  · have hframe := hst.steps.frame
    have hc' := (hframe.isImported c).trans (himported c hc)
    have hnew' := (hst.supertypes c (Set.disjoint_singleton_left.mp hA)).trans (hnew c)
    exact (moves_linkSupertypes (hst.steps.wf hs) hc' hnew' (by rwa [hframe.context])).mono
      fun _ u htu hu => ⟨(htu.steps.frame.isImported c).trans hc', hu⟩

/-- **The scopes and the supertypes of all imported classes are linked**, and the scopes of other
classes stay empty. -/
theorem moves_hierarchyBody (hs : s.WF) (hnodup : s.atlas.imported.toList.Nodup)
    (himported : ∀ c ∈ s.atlas.imported.toList, (s.atlas.cls c).imported = true)
    (hnone : ∀ c, (s.atlas.cls c).enclosingClass = none)
    (hnew : ∀ c, (s.atlas.cls c).supertypes = (none, []))
    (hF : ∀ n, s.context.Mentions n → Registry.readable n.toList = false → F) :
    Moves KeepsMembers F s hierarchyBody fun _ t =>
      (∀ c ∈ s.atlas.imported.toList, ClassScope t c ∧ Inherited t c) ∧
      ∀ c ∉ s.atlas.imported.toList,
        (t.atlas.cls c).enclosingClass = none ∧
        (t.atlas.cls c).typeParameters = (s.atlas.cls c).typeParameters := by
  unfold hierarchyBody
  refine moves_get_bind ?_
  refine (moves_mapM_declareClass hs hnodup himported hnone hF).bind_along
    (fun t h => h.toKeepsMembers) fun answers t hst hanswers => ?_
  have hFt : ∀ n, t.context.Mentions n → Registry.readable n.toList = false → F := by
    rwa [hst.steps.frame.context]
  have ht := hst.steps.wf hs
  refine (moves_forM_linkBounds ht hnodup hanswers hFt).bind_along
    (fun u h => h.toKeepsMembers) fun _ u htu hbounds => ?_
  have hu := htu.steps.wf ht
  have himported' : ∀ c ∈ s.atlas.imported.toList, (u.atlas.cls c).imported = true := by
    intro c hc
    rw [htu.steps.frame.isImported, hst.steps.frame.isImported]
    exact himported c hc
  have hFu : ∀ n, u.context.Mentions n → Registry.readable n.toList = false → F := by
    rwa [htu.steps.frame.context]
  have hnew' : ∀ c, (u.atlas.cls c).supertypes = (none, []) := fun c =>
    ((htu.supertypes c).trans (hst.supertypes c)).trans (hnew c)
  refine ((moves_forM_linkSupertypes hu hnodup himported' hnew' hFu).mono fun _ v huv hinherited =>
    ⟨fun c hc => ⟨?_, hinherited c hc⟩, fun c hc => ⟨?_, ?_⟩⟩).along fun v h => h.toKeepsMembers
  · obtain ⟨answer, hmem, rfl, hrange, hclass⟩ := hanswers.exists_right hc
    obtain ⟨hdeclared, hlinked⟩ := hbounds answer hmem
    have hparameters : (u.atlas.cls answer.1).typeParameters = answer.2.1 :=
      (htu.typeParameters _).trans hclass.typeParameters
    refine (hclass.classScope hrange htu hlinked).of_same hu
      (hrange.trans_le htu.steps.frame.classesSize) huv.steps.frame (huv.same _) fun w hw => ?_
    exact huv.typeVar w (hdeclared w (hparameters ▸ hw)).1
  · rw [huv.enclosingClass, htu.enclosingClass, hst.enclosingClass c hc]
    exact hnone c
  · rw [huv.typeParameters, htu.typeParameters, hst.typeParameters c hc]

end Linker

end ClassAtlas
