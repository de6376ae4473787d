import ClassAtlas.Proofs.Linker.Types

/-!
# Linking what a code unit does

* `Atlas.targetName` — the full name of a target, from its owner, its name and its parameters.
* `Atlas.SpelledTarget` — a target that has this full name.
* `LinkedUse` — how the record of an access and the linked access correspond.
* `moves_linkUses` — linking the accesses of a code unit gives one for each record, in order.
-/

namespace ClassAtlas

/-- Only calls and references have parameters. -/
lemma ImportContext.parameters_eq_nil {context : ImportContext} {key : UnitKey} {r : Record.Use}
    (hr : r ∈ context.uses key) (hkind : r.kind.targetKind = .field) : r.parameters = [] := by
  simp only [uses, List.mem_append, List.mem_map] at hr
  obtain (((⟨f, -, rfl⟩ | ⟨d, -, rfl⟩) | ⟨d, -, rfl⟩) | ⟨d, -, rfl⟩) | ⟨d, -, rfl⟩ := hr
  · rfl
  all_goals cases hkind

namespace Atlas

variable {a a' : Atlas} {t : Target}

/-- The full name of a target: `Owner.name` for a field, `Owner.name(p, q)` for a code unit. -/
def targetName (a : Atlas) (t : Target) : String :=
  match t.kind with
  | .field => fieldName (a.cls t.owner).name t.name
  | _ => codeUnitName (a.cls t.owner).name t.name (t.parameters.map fun p => (a.cls p).fullName)

/-- A target has the full name that follows, and parameters only if it is a code unit. -/
structure SpelledTarget (a : Atlas) (t : Target) : Prop where
  fullName : t.fullName = a.targetName t
  parameters : t.kind = .field → t.parameters = []

section

variable (htype : ∀ c : ClassId, c.index < a.classes.size → (a'.cls c).type = (a.cls c).type)
  (howner : t.owner.index < a.classes.size)
  (hparameters : ∀ p ∈ t.parameters, p.index < a.classes.size)
include htype howner hparameters

/-- The name of a target stays what it is, if its classes are there. -/
lemma targetName_eq : a'.targetName t = a.targetName t := by
  have howner : (a'.cls t.owner).name = (a.cls t.owner).name :=
    congrArg Descriptor.name (htype _ howner)
  have hparameters : t.parameters.map (fun p => (a'.cls p).fullName) =
      t.parameters.map fun p => (a.cls p).fullName :=
    List.map_congr_left fun p hp => congrArg Descriptor.fullName (htype p (hparameters p hp))
  rw [targetName, targetName, howner, hparameters]

lemma SpelledTarget.of_types (h : a.SpelledTarget t) : a'.SpelledTarget t :=
  ⟨h.fullName.trans (targetName_eq htype howner hparameters).symm, h.parameters⟩

end

end Atlas

namespace Linker

variable {F : Prop} {s t u : Linker} {R : Linker → Linker → Prop}

lemma moves_nameOf [IsPreorder Linker R] (id : ClassId) :
    Moves R F s (nameOf id) fun name t => t = s ∧ name = (s.atlas.cls id).name :=
  ⟨refl_of R s, rfl, rfl⟩

/-- How the record of an access and the linked access correspond. -/
structure LinkedUse (t : Linker) (r : Record.Use) (use : Use) : Prop where
  kind : use.1 = r.kind
  line : use.2.2 = r.line
  targetKind : use.2.1.kind = r.kind.targetKind
  name : use.2.1.name = r.name
  owner : t.atlas.names.get? r.owner = some use.2.1.owner
  parameters : List.Forall₂ (fun n id => t.atlas.names.get? n = some id) r.parameters
    use.2.1.parameters
  returns : t.atlas.names.get? r.returns = some use.2.1.returns
  fullName : use.2.1.fullName = t.atlas.targetName use.2.1

/-- The owner of the target is the class that its name denotes. -/
lemma LinkedUse.owner_eq {r : Record.Use} {use : Use} (h : LinkedUse t r use) (ht : t.WF)
    {c : ClassId} (hc : c.index < t.atlas.classes.size)
    (hname : Registry.Denotes r.owner.toList (t.atlas.cls c).type) : use.2.1.owner = c := by
  refine ht.named.name_inj (ht.named.inRange h.owner) hc (congrArg Descriptor.name ?_)
  exact (ht.named.denotes h.owner).unique hname

lemma LinkedUse.parameter_lt {r : Record.Use} {use : Use} (h : LinkedUse t r use) (ht : t.WF) :
    ∀ p ∈ use.2.1.parameters, p.index < t.atlas.classes.size := by
  intro p hp
  obtain ⟨n, -, hn⟩ := h.parameters.exists_left hp
  exact ht.named.inRange hn

/-- What is linked stays linked, for its classes are known. -/
lemma LinkedUse.of_types {r : Record.Use} {use : Use} (h : LinkedUse t r use) (ht : t.WF)
    (hnames : ∀ name id, t.atlas.names.get? name = some id → u.atlas.names.get? name = some id)
    (htype : ∀ c : ClassId, c.index < t.atlas.classes.size →
      (u.atlas.cls c).type = (t.atlas.cls c).type) : LinkedUse u r use where
  kind := h.kind
  line := h.line
  targetKind := h.targetKind
  name := h.name
  owner := hnames _ _ h.owner
  parameters := h.parameters.imp hnames
  returns := hnames _ _ h.returns
  fullName := h.fullName.trans
    (Atlas.targetName_eq htype (ht.named.inRange h.owner) (h.parameter_lt ht)).symm

lemma LinkedUse.spelled {context : ImportContext} {key : UnitKey} {r : Record.Use} {use : Use}
    (h : LinkedUse t r use) (hr : r ∈ context.uses key) : t.atlas.SpelledTarget use.2.1 := by
  refine ⟨h.fullName, fun hkind => ?_⟩
  have hparameters := h.parameters
  rw [ImportContext.parameters_eq_nil hr (h.targetKind.symm.trans hkind)] at hparameters
  exact List.forall₂_nil_left_iff.mp hparameters

lemma LinkedUse.grows {r : Record.Use} {use : Use} (h : LinkedUse t r use) (ht : t.WF)
    (htu : Grows t u) : LinkedUse u r use :=
  h.of_types ht htu.atlas.names fun c hc => by rw [htu.atlas.cls c hc]

lemma moves_linkFieldAccess {r : Record.FieldAccess}
    (hF : ∀ n ∈ (Record.Use.field r).names, Registry.readable n.toList = false → F) :
    Moves Grows F s (linkFieldAccess r) fun use t => LinkedUse t (.field r) use := by
  unfold linkFieldAccess
  refine (moves_intern (hF r.owner (by simp [Record.Use.names, Record.Use.owner]))).bind
    fun owner t hst howner => ?_
  refine (moves_intern (hF r.type (by simp [Record.Use.names, Record.Use.returns]))).bind
    fun type u htu htype => ?_
  refine (moves_nameOf owner).bind fun name v _ hname => ?_
  obtain ⟨rfl, rfl⟩ := hname
  exact moves_pure ⟨rfl, rfl, rfl, rfl, htu.atlas.names _ _ howner, .nil, htype, rfl⟩

lemma moves_linkCall {kind : AccessKind} {r : Record.Call} (hkind : kind.targetKind ≠ .field)
    (hF : ∀ n ∈ (Record.Use.call kind r).names, Registry.readable n.toList = false → F) :
    Moves Grows F s (linkCall kind r) fun use t => LinkedUse t (.call kind r) use := by
  unfold linkCall
  refine (moves_intern (hF r.owner (by simp [Record.Use.names, Record.Use.owner]))).bind
    fun owner t hst howner => ?_
  refine (moves_mapM_intern fun n hn => hF n (by
    simp [Record.Use.names, Record.Use.parameters, hn])).bind fun parameters u htu hparameters => ?_
  refine (moves_intern (hF r.returns (by simp [Record.Use.names, Record.Use.returns]))).bind
    fun returns v huv hreturns => moves_get_bind (moves_pure ?_)
  refine ⟨rfl, rfl, rfl, rfl, huv.atlas.names _ _ (htu.atlas.names _ _ howner),
    hparameters.imp fun n id hn => huv.atlas.names n id hn, hreturns, ?_⟩
  simp only [Atlas.targetName]

lemma moves_mapM_linkFieldAccess {rs : List Record.FieldAccess} (hs : s.WF)
    (hF : ∀ r ∈ rs, ∀ n ∈ (Record.Use.field r).names, Registry.readable n.toList = false → F) :
    Moves Grows F s (rs.mapM linkFieldAccess) fun uses t =>
      List.Forall₂ (LinkedUse t) (rs.map .field) uses :=
  (Moves.mapM (fun _ _ _ _ hst h htu => h.grows (hst.wf hs) htu)
    fun r hr _ _ => moves_linkFieldAccess (hF r hr)).mono
    fun _ _ _ h => List.forall₂_map_left_iff.mpr h

lemma moves_mapM_linkCall {kind : AccessKind} {rs : List Record.Call} (hs : s.WF)
    (hkind : kind.targetKind ≠ .field)
    (hF : ∀ r ∈ rs, ∀ n ∈ (Record.Use.call kind r).names,
      Registry.readable n.toList = false → F) :
    Moves Grows F s (rs.mapM (linkCall kind)) fun uses t =>
      List.Forall₂ (LinkedUse t) (rs.map (.call kind)) uses :=
  (Moves.mapM (fun _ _ _ _ hst h htu => h.grows (hst.wf hs) htu)
    fun r hr _ _ => moves_linkCall hkind (hF r hr)).mono
    fun _ _ _ h => List.forall₂_map_left_iff.mpr h

/-- **Linking the accesses of a code unit gives one for each record, in order.** -/
theorem moves_linkUses {key : UnitKey} (hs : s.WF)
    (hF : ∀ r ∈ s.context.uses key, ∀ n ∈ r.names, Registry.readable n.toList = false → F) :
    Moves Grows F s (linkUses key) fun uses t =>
      List.Forall₂ (LinkedUse t) (s.context.uses key) uses := by
  have hstable : ∀ {t u : Linker} {rs : List Record.Use} {uses : List Use}, Grows s t →
      Grows t u → List.Forall₂ (LinkedUse t) rs uses → List.Forall₂ (LinkedUse u) rs uses :=
    fun hst htu h => h.imp fun _ _ h => h.grows (hst.wf hs) htu
  unfold linkUses
  refine moves_get_bind ?_
  refine (moves_mapM_linkFieldAccess hs fun r hr => hF _ ?_).bind fun us₁ t₁ h₁ hus₁ => ?_
  · simp [ImportContext.uses, hr]
  refine (moves_mapM_linkCall (h₁.wf hs) (by decide) fun r hr => hF _ ?_).bind
    fun us₂ t₂ h₂ hus₂ => ?_
  · simp [ImportContext.uses, hr]
  have h₂' := h₁.trans h₂
  refine (moves_mapM_linkCall (h₂'.wf hs) (by decide) fun r hr => hF _ ?_).bind
    fun us₃ t₃ h₃ hus₃ => ?_
  · simp [ImportContext.uses, hr]
  have h₃' := h₂'.trans h₃
  refine (moves_mapM_linkCall (h₃'.wf hs) (by decide) fun r hr => hF _ ?_).bind
    fun us₄ t₄ h₄ hus₄ => ?_
  · simp [ImportContext.uses, hr]
  have h₄' := h₃'.trans h₄
  refine (moves_mapM_linkCall (h₄'.wf hs) (by decide) fun r hr => hF _ ?_).bind
    fun us₅ t₅ h₅ hus₅ => moves_pure ?_
  · simp [ImportContext.uses, hr]
  -- everything linked so far is looked at in the last state
  have hus₁ := hstable h₁ (h₂.trans (h₃.trans (h₄.trans h₅))) hus₁
  have hus₂ := hstable h₂' (h₃.trans (h₄.trans h₅)) hus₂
  have hus₃ := hstable h₃' (h₄.trans h₅) hus₃
  have hus₄ := hstable h₄' h₅ hus₄
  exact List.rel_append (List.rel_append (List.rel_append (List.rel_append hus₁ hus₂) hus₃) hus₄)
    hus₅

end Linker

end ClassAtlas
