import ClassAtlas.Proofs.Atlas.Changes
import ClassAtlas.Proofs.Linker.Uses

/-!
# Edits

All that linking does to a state is a row of edits of eight kinds.  What every edit keeps, every
step of linking keeps, whether it fails or not.

* `Edit` — one edit, with what is known of it.
* `Steps` — a row of edits.
* `Steps.wf` — states stay well-formed.
* `Steps.frame` — context and imported classes stay as they are; `Steps.phase` — so does the phase.
* `Steps.queuesUnits` — only code units are queued.
-/

namespace ClassAtlas

/-- What a class has from the start. -/
def ClassNode.heading (c : ClassNode) :
    (ClassId × Descriptor × Option ClassId) × Bool × ClassKind × Modifiers × Option Source :=
  (c.identity, c.imported, c.kind, c.modifiers, c.source)

/-- The parameters of a member are numbered in order. -/
def Member.Numbered (m : Member) : Prop :=
  m.parameters.map (·.position) = List.range m.parameters.length

namespace Linker

variable {s t u : Linker}

/-- A type variable that was declared, unlike those that are used without that. -/
def Declared (s : Linker) (v : VarId) : Prop :=
  v.index < s.atlas.typeVars.size ∧ ∀ entry ∈ s.undeclared, entry.2 ≠ v

/-- Two nodes of a class with the same heading, place in the hierarchy and members. -/
structure SamePlace (c c' : ClassNode) : Prop where
  heading : c'.heading = c.heading
  superclass : c'.superclass = c.superclass
  interfaces : c'.interfaces = c.interfaces
  subclasses : c'.subclasses = c.subclasses
  members : c'.members = c.members

lemma SamePlace.identity {c c' : ClassNode} (h : SamePlace c c') : c'.identity = c.identity :=
  congrArg Prod.fst h.heading

/-- In a class that keeps its place, only type parameters, enclosing class and annotations can refer
to something new. -/
lemma SamePlace.within {c c' : ClassNode} {e : Extent} (h : SamePlace c c') (hc : c.Within e)
    (hparameters : ∀ v ∈ c'.typeParameters, v ∈ c.typeParameters ∨ v.index < e.vars)
    (henclosing : ∀ d ∈ c'.enclosingClass, d ∈ c.enclosingClass ∨ d.index < e.classes)
    (hannotations : ∀ x ∈ c'.annotations, x ∈ c.annotations ∨ x.Within e) : c'.Within e where
  component := by
    have hcomponent : c'.component = c.component := congrArg (·.2.2) h.identity
    exact hcomponent ▸ hc.component
  superclass := h.superclass ▸ hc.superclass
  interfaces := h.interfaces ▸ hc.interfaces
  typeParameters v hv := (hparameters v hv).elim (hc.typeParameters v) id
  subclasses := h.subclasses ▸ hc.subclasses
  enclosingClass d hd := (henclosing d hd).elim (hc.enclosingClass d) id
  members := h.members ▸ hc.members
  annotations x hx := (hannotations x hx).elim (hc.annotations x) id

/-- Two forms of a member with the same position, owner, name and modifiers, fields or code units
both. -/
structure SameMember (m m' : Member) : Prop where
  id : m'.id = m.id
  owner : m'.owner = m.owner
  name : m'.name = m.name
  modifiers : m'.modifiers = m.modifiers
  isField : m'.isField = m.isField

/-- An edit of the state.  Of classes, only imported ones are edited, and their supertypes are set
once.  What an edit refers to is there, a code unit gets accesses that start from it only, and its
parameters are numbered. -/
inductive Edit : Linker → Linker → Prop
  | grow {s t : Linker} (h : Grows s t) : Edit s t
  | cls {s : Linker} (id : ClassId) (change : ClassNode → ClassNode)
      (himported : (s.atlas.cls id).imported = true) (hsame : ∀ c, SamePlace c (change c))
      (hparameters : ∀ v ∈ (change (s.atlas.cls id)).typeParameters,
        v ∈ (s.atlas.cls id).typeParameters ∨ Declared s v)
      (hwithin : (s.atlas.cls id).Within s.atlas.extent →
        (change (s.atlas.cls id)).Within s.atlas.extent) :
      Edit s { s with atlas := s.atlas.modifyClass id change }
  | supertypes {s : Linker} (id : ClassId) (superclass : Option TypeRef)
      (interfaces : List TypeRef) (himported : (s.atlas.cls id).imported = true)
      (hfits : ∀ type ∈ superclass.toList ++ interfaces, Fits s type)
      (hnew : (s.atlas.cls id).supertypes = (none, [])) :
      Edit s { s with atlas := setSupertypes id superclass interfaces s.atlas }
  | bounds {s : Linker} (v : VarId) (types : List TypeRef) (hv : Declared s v)
      (hfits : ∀ type ∈ types, Fits s type) :
      Edit s { s with atlas := s.atlas.setBounds v types }
  | addMember {s : Linker} (make : MemberId → Member)
      (himported : ∀ id, (s.atlas.cls (make id).owner).imported = true)
      (hparameters : ∀ id, (make id).typeParameters = [])
      (hkind : ∀ id, (make id).isConstructor = false) (hid : ∀ id, (make id).id = id)
      (hwithin : ∀ id, (make id).Within s.atlas.extent)
      (haccesses : ∀ id, (make id).accesses = []) (hnumbered : ∀ id, (make id).Numbered) :
      Edit s { s with atlas := (s.atlas.addMember make).2 }
  | member {s : Linker} (id : MemberId) (change : Member → Member)
      (hsame : SameMember (s.atlas.member id) (change (s.atlas.member id)))
      (hparameters : ∀ v ∈ (change (s.atlas.member id)).typeParameters,
        v ∈ (s.atlas.member id).typeParameters ∨ Declared s v)
      (hkind : (change (s.atlas.member id)).isConstructor = true →
        (s.atlas.member id).isConstructor = true ∨
          ∃ name, ∃ r ∈ s.context.constructors name, r.name = (s.atlas.member id).name)
      (hwithin : (s.atlas.member id).Within s.atlas.extent →
        (change (s.atlas.member id)).Within s.atlas.extent)
      (haccesses : ∀ i ∈ (change (s.atlas.member id)).accesses,
        i ∈ (s.atlas.member id).accesses ∨ (s.atlas.access i).origin = id)
      (hnumbered : (s.atlas.member id).Numbered → (change (s.atlas.member id)).Numbered) :
      Edit s { s with atlas := s.atlas.modifyMember id change }
  | access {s : Linker} (make : AccessId → Access) (hid : ∀ id, (make id).id = id)
      (hrecord : ∀ id, ∃ key, ∃ r ∈ s.context.uses key,
        (make id).kind = r.kind ∧ (make id).target.kind = r.kind.targetKind ∧
        (make id).target.name = r.name)
      (hwithin : ∀ id, (make id).Within s.atlas.extent)
      (hspelled : ∀ id, s.atlas.SpelledTarget (make id).target) :
      Edit s { s with atlas := (s.atlas.addAccess make).2 }
  | pending {s : Linker} (entries : List (MemberId × UnitKey))
      (h : ∀ entry ∈ entries, entry ∈ s.pending ∨ (s.atlas.member entry.1).isField = false) :
      Edit s { s with pending := entries }

/-- A row of edits. -/
def Steps : Linker → Linker → Prop :=
  Relation.ReflTransGen Edit

instance : IsPreorder Linker Steps where
  refl _ := Relation.ReflTransGen.refl
  trans _ _ _ := Relation.ReflTransGen.trans

lemma Edit.steps (h : Edit s t) : Steps s t :=
  Relation.ReflTransGen.single h

lemma Grows.steps (h : Grows s t) : Steps s t :=
  (Edit.grow h).steps

/-! ## Well-formedness -/

/-- States stay well-formed when only classes, members or accesses change. -/
lemma WF.of_typeVars (hs : s.WF) {a : Atlas} (hnamed : a.Named)
    (hclasses : a.classes.size = s.atlas.classes.size) (hvars : a.typeVars = s.atlas.typeVars)
    (hclass : ∀ c, ∀ v ∈ (a.cls c).typeParameters,
      v ∈ (s.atlas.cls c).typeParameters ∨ Declared s v)
    (hmember : ∀ m, ∀ v ∈ (a.member m).typeParameters,
      v ∈ (s.atlas.member m).typeParameters ∨ Declared s v) :
    WF { s with atlas := a } where
  named := hnamed
  closed := hs.closed.of_typeVars hclasses hvars (fun c v hv => (hclass c v hv).imp_right (·.1))
    fun m v hv => (hmember m v hv).imp_right (·.1)
  undeclared entry h := by
    exact (hs.undeclared entry h).of_typeVar (by rw [hvars]) (by rw [Atlas.typeVar, hvars]; rfl)

theorem Edit.wf (h : Edit s t) (hs : s.WF) : t.WF := by
  cases h with
  | grow h => exact h.wf hs
  | cls id change _ hsame hparameters =>
      refine hs.of_typeVars (hs.named.of_identity (Atlas.size_modifyClass ..) rfl rfl
        (Atlas.keep_modifyClass _ _ (fun c => (hsame c).identity) id))
        (Atlas.size_modifyClass ..) rfl (fun c v hv => ?_) fun m v hv => Or.inl hv
      rw [Atlas.cls_modifyClass] at hv
      split_ifs at hv with hc
      · obtain ⟨rfl, -⟩ := hc
        exact hparameters v hv
      · exact Or.inl hv
  | supertypes id superclass interfaces _ hfits =>
      obtain ⟨hsize, hframe⟩ := setSupertypes_frame id superclass interfaces s.atlas
      have hidentity := keep_setSupertypes ClassNode.identity (fun _ _ => rfl) (fun _ _ _ => rfl) id
        superclass interfaces s.atlas
      have hparameters := keep_setSupertypes ClassNode.typeParameters (fun _ _ => rfl)
        (fun _ _ _ => rfl) id superclass interfaces s.atlas
      refine hs.of_typeVars
        (hs.named.of_identity hsize (by rw [hframe]) (by rw [hframe]) hidentity)
        hsize (by rw [hframe]) (fun c v hv => ?_) fun m v hv => ?_
      · exact Or.inl (hparameters c ▸ hv)
      · rw [hframe] at hv
        exact Or.inl hv
  | bounds v types hv hfits =>
      refine ⟨hs.named.of_identity rfl rfl rfl fun _ => rfl, ⟨hs.closed.nonempty, fun c w hw => ?_,
        fun m w hw => ?_, fun w bound hb => ?_⟩, fun entry h => ?_⟩
      · rw [Atlas.size_setBounds]
        exact hs.closed.classParameters c w hw
      · rw [Atlas.size_setBounds]
        exact hs.closed.unitParameters m w hw
      · rw [Atlas.size_setBounds]
        rw [Atlas.typeVar_setBounds] at hb
        split_ifs at hb
        · exact hfits bound hb
        · exact hs.closed.bounds w bound hb
      · -- a variable that is used without being declared is not the one that gets bounds
        refine (hs.undeclared entry h).of_typeVar (Atlas.size_setBounds ..).ge ?_
        rw [Atlas.typeVar_setBounds, if_neg fun heq => hv.2 entry h heq.1]
  | addMember make _ hparameters hkind =>
      refine hs.of_typeVars (hs.named.of_identity (Atlas.size_modifyClass ..) rfl rfl
        (s.atlas.keep_addMember ClassNode.identity (fun _ _ => rfl) make))
        (Atlas.size_modifyClass ..) rfl
        (fun c v hv => ?_) fun m v hv => ?_
      · exact Or.inl (s.atlas.keep_addMember ClassNode.typeParameters (fun _ _ => rfl) make c ▸ hv)
      · rw [Atlas.member_addMember] at hv
        split_ifs at hv
        · rw [hparameters] at hv
          cases hv
        · exact Or.inl hv
  | member id change hsame hparameters hkind =>
      refine hs.of_typeVars (hs.named.of_identity rfl rfl rfl fun _ => rfl) rfl rfl
        (fun c v hv => Or.inl hv) fun m v hv => ?_
      rw [Atlas.member_modifyMember] at hv
      split_ifs at hv with hm
      · obtain ⟨rfl, -⟩ := hm
        exact hparameters v hv
      · exact Or.inl hv
  | access make hid hrecord =>
      exact hs.of_typeVars (hs.named.of_identity rfl rfl rfl fun _ => rfl) rfl rfl
        (fun c v hv => Or.inl hv) fun m v hv => Or.inl hv
  | pending entries h => exact ⟨hs.named, hs.closed, hs.undeclared⟩

/-- **States stay well-formed.** -/
theorem Steps.wf (h : Steps s t) (hs : s.WF) : t.WF := by
  induction h with
  | refl => exact hs
  | tail _ hedit ih => exact hedit.wf ih

/-! ## What no edit changes -/

/-- What a state and a later one have in common. -/
structure Frame (s t : Linker) : Prop where
  context : t.context = s.context
  imported : t.atlas.imported = s.atlas.imported
  isImported : ∀ c, (t.atlas.cls c).imported = (s.atlas.cls c).imported
  classesSize : s.atlas.classes.size ≤ t.atlas.classes.size
  heading : ∀ c : ClassId, c.index < s.atlas.classes.size →
    (t.atlas.cls c).heading = (s.atlas.cls c).heading
  names : ∀ name id, s.atlas.names.get? name = some id → t.atlas.names.get? name = some id
  typeVarsSize : s.atlas.typeVars.size ≤ t.atlas.typeVars.size
  variableName : ∀ v : VarId, v.index < s.atlas.typeVars.size →
    (t.atlas.typeVar v).name = (s.atlas.typeVar v).name
  undeclared : s.undeclared ⊆ t.undeclared
  declared : ∀ v, Declared s v → Declared t v
  membersSize : s.atlas.members.size ≤ t.atlas.members.size
  member : ∀ m : MemberId, m.index < s.atlas.members.size →
    SameMember (s.atlas.member m) (t.atlas.member m)
  accessesSize : s.atlas.accesses.size ≤ t.atlas.accesses.size

lemma Frame.extent (h : Frame s t) : s.atlas.extent.Le t.atlas.extent :=
  ⟨h.classesSize, h.membersSize, h.accessesSize, h.typeVarsSize⟩

lemma SameMember.refl (m : Member) : SameMember m m :=
  ⟨rfl, rfl, rfl, rfl, rfl⟩

lemma SameMember.trans {m m' m'' : Member} (h : SameMember m m') (h' : SameMember m' m'') :
    SameMember m m'' :=
  ⟨h'.id.trans h.id, h'.owner.trans h.owner, h'.name.trans h.name,
    h'.modifiers.trans h.modifiers, h'.isField.trans h.isField⟩

/-- The phase does not matter. -/
lemma Frame.withPhase (s : Linker) (p : Phase) : Frame s { s with phase := p } :=
  ⟨rfl, rfl, fun _ => rfl, le_rfl, fun _ _ => rfl, fun _ _ h => h, le_rfl, fun _ _ => rfl,
    List.Subset.refl _, fun _ h => h, le_rfl, fun _ _ => SameMember.refl _, le_rfl⟩

lemma Frame.refl (s : Linker) : Frame s s :=
  Frame.withPhase s s.phase

lemma Frame.trans (h : Frame s t) (h' : Frame t u) : Frame s u where
  context := h'.context.trans h.context
  imported := h'.imported.trans h.imported
  isImported c := (h'.isImported c).trans (h.isImported c)
  classesSize := h.classesSize.trans h'.classesSize
  heading c hc := (h'.heading c (hc.trans_le h.classesSize)).trans (h.heading c hc)
  names name id hn := h'.names name id (h.names name id hn)
  typeVarsSize := h.typeVarsSize.trans h'.typeVarsSize
  variableName v hv := (h'.variableName v (hv.trans_le h.typeVarsSize)).trans (h.variableName v hv)
  undeclared := List.Subset.trans h.undeclared h'.undeclared
  declared v hv := h'.declared v (h.declared v hv)
  membersSize := h.membersSize.trans h'.membersSize
  member m hm := (h.member m hm).trans (h'.member m (hm.trans_le h.membersSize))
  accessesSize := h.accessesSize.trans h'.accessesSize

lemma Frame.type (h : Frame s t) (c : ClassId) (hc : c.index < s.atlas.classes.size) :
    (t.atlas.cls c).type = (s.atlas.cls c).type :=
  congrArg (·.1.2.1) (h.heading c hc)

lemma Frame.className (h : Frame s t) {c : ClassId} (hc : c.index < s.atlas.classes.size) :
    (t.atlas.cls c).name = (s.atlas.cls c).name :=
  congrArg Descriptor.name (h.type c hc)

lemma Grows.declared (h : Grows s t) {v : VarId} (hv : Declared s v) : Declared t v := by
  refine ⟨hv.1.trans_le h.atlas.typeVarsSize, fun entry hentry heq => ?_⟩
  rcases h.undeclared entry hentry with hold | ⟨hlo, -⟩
  · exact hv.2 entry hold heq
  · exact absurd (heq ▸ hv.1) (not_lt.mpr hlo)

lemma Grows.frame (h : Grows s t) : Frame s t where
  context := h.context
  imported := h.atlas.imported
  isImported c := by
    rcases h.atlas.cls_eq_or_bare c with heq | ⟨hb, hb'⟩
    · rw [heq]
    · rw [hb.imported, hb'.imported]
  classesSize := h.atlas.classesSize
  heading c hc := by rw [h.atlas.cls c hc]
  names := h.atlas.names
  typeVarsSize := h.atlas.typeVarsSize
  variableName v hv := by rw [h.atlas.typeVar v hv]
  undeclared := h.kept
  declared _ := h.declared
  membersSize := by rw [h.atlas.members]
  member m _ := by rw [h.atlas.member]; exact SameMember.refl _
  accessesSize := by rw [h.atlas.accesses]

/-- An edit of the atlas that adds no class, no name and no type variable. -/
lemma Frame.of_atlas {a : Atlas} (himported : a.imported = s.atlas.imported)
    (hclasses : a.classes.size = s.atlas.classes.size) (hnames : a.names = s.atlas.names)
    (hcls : ∀ c, (a.cls c).heading = (s.atlas.cls c).heading)
    (hvars : a.typeVars.size = s.atlas.typeVars.size)
    (hvar : ∀ v, (a.typeVar v).name = (s.atlas.typeVar v).name)
    (hmembers : s.atlas.members.size ≤ a.members.size)
    (hmember : ∀ m : MemberId, m.index < s.atlas.members.size →
      SameMember (s.atlas.member m) (a.member m))
    (haccesses : s.atlas.accesses.size ≤ a.accesses.size) :
    Frame s { s with atlas := a } where
  context := rfl
  imported := himported
  isImported c := congrArg (·.2.1) (hcls c)
  classesSize := hclasses.ge
  heading c _ := hcls c
  names name id h := by rw [hnames]; exact h
  typeVarsSize := hvars.ge
  variableName v _ := hvar v
  undeclared := List.Subset.refl _
  declared v hv := ⟨hvars ▸ hv.1, hv.2⟩
  membersSize := hmembers
  member := hmember
  accessesSize := haccesses

theorem Edit.frame (h : Edit s t) : Frame s t := by
  cases h with
  | grow h => exact h.frame
  | cls id change _ hsame _ =>
      exact Frame.of_atlas rfl (Atlas.size_modifyClass ..) rfl
        (Atlas.keep_modifyClass _ _ (fun c => (hsame c).heading) id)
        rfl (fun _ => rfl) le_rfl (fun _ _ => SameMember.refl _) le_rfl
  | supertypes id superclass interfaces _ hfits =>
      obtain ⟨hsize, hframe⟩ := setSupertypes_frame id superclass interfaces s.atlas
      refine Frame.of_atlas (by rw [hframe]) hsize (by rw [hframe])
        (fun c => keep_setSupertypes ClassNode.heading (fun _ _ => rfl) (fun _ _ _ => rfl) ..)
        (by rw [hframe]) (fun v => by rw [hframe]; rfl) (by rw [hframe])
        (fun m _ => by rw [hframe]; exact SameMember.refl _) (by rw [hframe])
  | bounds v types hv hfits =>
      refine Frame.of_atlas rfl rfl rfl (fun _ => rfl) (Atlas.size_setBounds ..)
        (fun w => ?_) le_rfl (fun _ _ => SameMember.refl _) le_rfl
      rw [Atlas.typeVar_setBounds]
      split_ifs <;> rfl
  | addMember make _ _ _ =>
      refine Frame.of_atlas rfl (Atlas.size_modifyClass ..) rfl
        (fun c => ?_) rfl (fun _ => rfl) (by simp [Atlas.addMember, Atlas.modifyClass])
        (fun m hm => ?_) le_rfl
      · rw [Atlas.cls_addMember]
        split_ifs <;> rfl
      · rw [Atlas.member_addMember, if_neg hm.ne]
        exact SameMember.refl _
  | member id change hsame _ _ =>
      refine Frame.of_atlas rfl rfl rfl (fun _ => rfl) rfl (fun _ => rfl)
        (Atlas.size_modifyMember ..).ge (fun m _ => ?_) le_rfl
      rw [Atlas.member_modifyMember]
      split_ifs with hm
      · rw [hm.1]
        exact hsame
      · exact SameMember.refl _
  | access make _ _ =>
      exact Frame.of_atlas rfl rfl rfl (fun _ => rfl) rfl (fun _ => rfl) le_rfl
        (fun _ _ => SameMember.refl _) (by simp [Atlas.addAccess])
  | pending entries h =>
      exact ⟨rfl, rfl, fun _ => rfl, le_rfl, fun _ _ => rfl, fun _ _ h => h, le_rfl,
        fun _ _ => rfl, List.Subset.refl _, fun _ h => h, le_rfl, fun _ _ => SameMember.refl _,
        le_rfl⟩

theorem Steps.frame (h : Steps s t) : Frame s t := by
  induction h with
  | refl => exact Frame.refl s
  | tail _ hedit ih => exact ih.trans hedit.frame

lemma Steps.phase (h : Steps s t) : t.phase = s.phase := by
  induction h with
  | refl => rfl
  | tail _ hedit ih =>
      rw [← ih]
      cases hedit with
      | grow h => exact h.phase
      | _ => rfl

/-! ## What is queued -/

/-- A member that is no field is there, since positions that are not taken read as fields. -/
lemma lt_of_not_isField {a : Atlas} {m : MemberId} (h : (a.member m).isField = false) :
    m.index < a.members.size := by
  by_contra hlt
  rw [Atlas.member_eq_default (not_lt.mp hlt)] at h
  cases h

/-- Only code units are queued. -/
def QueuesUnits (s : Linker) : Prop :=
  ∀ entry ∈ s.pending, (s.atlas.member entry.1).isField = false

lemma QueuesUnits.frame (hs : QueuesUnits s) (h : Frame s t)
    (hpending : ∀ entry ∈ t.pending, entry ∈ s.pending) : QueuesUnits t := by
  intro entry hentry
  have hunit := hs entry (hpending entry hentry)
  exact (h.member entry.1 (lt_of_not_isField hunit)).isField.trans hunit

theorem Edit.queuesUnits (h : Edit s t) (hs : QueuesUnits s) : QueuesUnits t := by
  have hframe := h.frame
  cases h with
  | pending entries h =>
      intro entry hentry
      rcases h entry hentry with hold | hunit
      · exact hs entry hold
      · exact hunit
  | grow h => exact hs.frame hframe fun entry hentry => h.pending ▸ hentry
  | cls | supertypes | bounds | addMember | member | access =>
      exact hs.frame hframe fun entry hentry => hentry

theorem Steps.queuesUnits (h : Steps s t) (hs : QueuesUnits s) : QueuesUnits t := by
  induction h with
  | refl => exact hs
  | tail _ hedit ih => exact hedit.queuesUnits ih

end Linker

end ClassAtlas
