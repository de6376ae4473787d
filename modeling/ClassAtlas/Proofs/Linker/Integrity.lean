import ClassAtlas.Batch
import ClassAtlas.Proofs.Linker.Consistency
import ClassAtlas.Record.Builder

/-!
# Integrity

An atlas keeps its classes, members, accesses and type variables in arrays, and everything refers to
them by position.  That all of it fits together holds from the start, every edit keeps it, and so it
holds after every run, whether requests failed or not.

* `Atlas.InRange` — all that is referred to is there.
* `Atlas.Integral` — moreover members and variables know their positions, members are listed once,
  and accesses are listed by nothing but the code unit they start from.
* `Edit.integral` — every edit keeps this.
* `perform_answer` — a request fails for two reasons only.
* `run_intact` — **every state that linking can reach is intact**.
-/

namespace ClassAtlas

/-- A class of which nothing is linked refers to its component only. -/
lemma ClassNode.Blank.within {c : ClassNode} {e : Extent} (h : c.Blank)
    (hcomponent : ∀ d ∈ c.component, d.index < e.classes) : c.Within e where
  component := hcomponent
  superclass := by simp [h.superclass]
  interfaces := by simp [h.interfaces]
  typeParameters := by simp [h.typeParameters]
  subclasses := by simp [h.subclasses]
  enclosingClass := by simp [h.enclosingClass]
  members := by simp [h.members]
  annotations := by simp [h.annotations]

lemma Member.Within.access_lt {m : Member} {e : Extent} (h : m.Within e) {i : AccessId}
    (hi : i ∈ m.accesses) : i.index < e.accesses := by
  rcases hbody : m.body with ⟨type, raw⟩ | ⟨kind, unit⟩
  · rw [accesses_of_field hbody] at hi
    cases hi
  · rw [accesses_of_code hbody] at hi
    have hunit := h.body
    rw [hbody] at hunit
    exact hunit.accesses i hi

namespace Atlas

variable {a a' : Atlas}

/-! ## Everything in range -/

/-- All that the classes, members, accesses and type variables of an atlas refer to is there. -/
structure InRange (a : Atlas) : Prop where
  cls : ∀ c : ClassId, c.index < a.classes.size → (a.cls c).Within a.extent
  member : ∀ m : MemberId, m.index < a.members.size → (a.member m).Within a.extent
  access : ∀ i : AccessId, i.index < a.accesses.size → (a.access i).Within a.extent
  typeVar : ∀ v : VarId, v.index < a.typeVars.size → (a.typeVar v).Within a.extent

/-- It is enough to look at what changed. -/
lemma InRange.of_changes (h : a.InRange) (hle : a.extent.Le a'.extent)
    (hcls : ∀ c : ClassId, c.index < a'.classes.size →
      c.index < a.classes.size ∧ a'.cls c = a.cls c ∨ (a'.cls c).Within a'.extent)
    (hmember : ∀ m : MemberId, m.index < a'.members.size →
      m.index < a.members.size ∧ a'.member m = a.member m ∨ (a'.member m).Within a'.extent)
    (haccess : ∀ i : AccessId, i.index < a'.accesses.size →
      i.index < a.accesses.size ∧ a'.access i = a.access i ∨ (a'.access i).Within a'.extent)
    (htypeVar : ∀ v : VarId, v.index < a'.typeVars.size →
      v.index < a.typeVars.size ∧ a'.typeVar v = a.typeVar v ∨ (a'.typeVar v).Within a'.extent) :
    a'.InRange where
  cls c hc := by
    rcases hcls c hc with ⟨hlt, heq⟩ | hnew
    · rw [heq]
      exact (h.cls c hlt).mono hle
    · exact hnew
  member m hm := by
    rcases hmember m hm with ⟨hlt, heq⟩ | hnew
    · rw [heq]
      exact (h.member m hlt).mono hle
    · exact hnew
  access i hi := by
    rcases haccess i hi with ⟨hlt, heq⟩ | hnew
    · rw [heq]
      exact (h.access i hlt).mono hle
    · exact hnew
  typeVar v hv := by
    rcases htypeVar v hv with ⟨hlt, heq⟩ | hnew
    · rw [heq]
      exact (h.typeVar v hlt).mono hle
    · exact hnew

/-- The component of a class comes before it. -/
lemma Named.component_lt (ha : a.Named) {c d : ClassId} (hc : c.index < a.classes.size)
    (hd : d ∈ (a.cls c).component) : d.index < c.index := by
  rcases ha.composed c hc with ⟨hnone, -⟩ | ⟨e, he, hlt, -⟩
  · rw [hnone] at hd
    cases hd
  · rw [he, Option.mem_def, Option.some_inj] at hd
    rwa [← hd]

lemma InRange.grows (h : a.InRange) (hgrows : a.Grows a') (ha' : a'.Named) : a'.InRange := by
  refine h.of_changes hgrows.extent (fun c hc => ?_) (fun m hm => ?_) (fun i hi => ?_)
    fun v hv => ?_
  · rcases lt_or_ge c.index a.classes.size with hold | hnew
    · exact Or.inl ⟨hold, hgrows.cls c hold⟩
    · exact Or.inr ((hgrows.bare c hnew).toBlank.within fun d hd =>
        (ha'.component_lt hc hd).trans hc)
  · rw [hgrows.members] at hm
    exact Or.inl ⟨hm, hgrows.member m⟩
  · rw [hgrows.accesses] at hi
    exact Or.inl ⟨hi, by rw [Atlas.access, Atlas.access, hgrows.accesses]⟩
  · rcases lt_or_ge v.index a.typeVars.size with hold | hnew
    · exact Or.inl ⟨hold, hgrows.typeVar v hold⟩
    · exact Or.inr ⟨(hgrows.added v hnew hv).2, by simp [hgrows.unbounded v hnew]⟩

lemma InRange.modifyClass (h : a.InRange) {id : ClassId} {change : ClassNode → ClassNode}
    (hwithin : (a.cls id).Within a.extent → (change (a.cls id)).Within a.extent) :
    (a.modifyClass id change).InRange := by
  have hextent : (a.modifyClass id change).extent = a.extent := by
    simp [Atlas.extent, Atlas.modifyClass]
  refine h.of_changes (hextent ▸ Extent.Le.refl _) (fun c hc => ?_) (fun m hm => Or.inl ⟨hm, rfl⟩)
    (fun i hi => Or.inl ⟨hi, rfl⟩) fun v hv => Or.inl ⟨hv, rfl⟩
  rw [size_modifyClass] at hc
  rw [cls_modifyClass, hextent]
  split_ifs with hid
  · obtain ⟨rfl, -⟩ := hid
    exact Or.inr (hwithin (h.cls c hc))
  · exact Or.inl ⟨hc, rfl⟩

/-- A class that gets supertypes refers to them, and they to it. -/
lemma InRange.setSupertypes (h : a.InRange) {id : ClassId} (hid : id.index < a.classes.size)
    {superclass : Option TypeRef} {interfaces : List TypeRef}
    (hfits : ∀ type ∈ superclass.toList ++ interfaces,
      type.Within a.classes.size a.typeVars.size) :
    (Linker.setSupertypes id superclass interfaces a).InRange := by
  obtain ⟨hsize, hframe⟩ := Linker.setSupertypes_frame id superclass interfaces a
  have hextent : (Linker.setSupertypes id superclass interfaces a).extent = a.extent := by
    rw [Atlas.extent, hsize, hframe]
    rfl
  have hkeep := Linker.keep_setSupertypes (fun c => (c.component, c.typeParameters,
    c.enclosingClass, c.members, c.annotations)) (fun _ _ => rfl) (fun _ _ _ => rfl) id superclass
    interfaces a
  simp only [Prod.mk.injEq] at hkeep
  refine h.of_changes (hextent ▸ Extent.Le.refl _) (fun c hc => Or.inr ?_) (fun m hm => ?_)
    (fun i hi => ?_) fun v hv => ?_
  · rw [hsize] at hc
    have hold := h.cls c hc
    obtain ⟨hcomponent, hparameters, henclosing, hmembers, hannotations⟩ := hkeep c
    have hsupertypes :
        (∀ type ∈ ((Linker.setSupertypes id superclass interfaces a).cls c).superclass,
          type.Within a.classes.size a.typeVars.size) ∧
        ∀ type ∈ ((Linker.setSupertypes id superclass interfaces a).cls c).interfaces,
          type.Within a.classes.size a.typeVars.size := by
      by_cases hself : c = id
      · subst hself
        have hset := Linker.supertypes_setSupertypes hid superclass interfaces
        rw [ClassNode.supertypes, Prod.mk.injEq] at hset
        rw [hset.1, hset.2]
        exact ⟨fun type ht => hfits type (List.mem_append_left _ (Option.mem_toList.mpr ht)),
          fun type ht => hfits type (List.mem_append_right _ ht)⟩
      · have hset := Linker.keep_setSupertypes_of_ne ClassNode.supertypes (fun _ _ => rfl) hself
          superclass interfaces a
        simp only [ClassNode.supertypes, Prod.mk.injEq] at hset
        rw [hset.1, hset.2]
        exact ⟨hold.superclass, hold.interfaces⟩
    rw [hextent]
    refine ⟨hcomponent ▸ hold.component, hsupertypes.1, hsupertypes.2,
      hparameters ▸ hold.typeParameters, fun d hd => ?_, henclosing ▸ hold.enclosingClass,
      hmembers ▸ hold.members, hannotations ▸ hold.annotations⟩
    rcases (Linker.mem_subclasses_setSupertypes ..).mp hd with hbelow | ⟨rfl, -⟩
    · exact hold.subclasses d hbelow
    · exact hid
  · rw [hframe] at hm ⊢
    exact Or.inl ⟨hm, rfl⟩
  · rw [hframe] at hi ⊢
    exact Or.inl ⟨hi, rfl⟩
  · rw [hframe] at hv ⊢
    exact Or.inl ⟨hv, rfl⟩

lemma InRange.setBounds (h : a.InRange) (id : VarId) {types : List TypeRef}
    (hfits : ∀ type ∈ types, type.Within a.classes.size a.typeVars.size) :
    (a.setBounds id types).InRange := by
  have hextent : (a.setBounds id types).extent = a.extent := by
    simp [Atlas.extent, Atlas.setBounds]
  refine h.of_changes (hextent ▸ Extent.Le.refl _) (fun c hc => Or.inl ⟨hc, rfl⟩)
    (fun m hm => Or.inl ⟨hm, rfl⟩) (fun i hi => Or.inl ⟨hi, rfl⟩) fun v hv => ?_
  rw [size_setBounds] at hv
  rw [typeVar_setBounds, hextent]
  split_ifs
  · exact Or.inr ⟨(h.typeVar v hv).owner, hfits⟩
  · exact Or.inl ⟨hv, rfl⟩

lemma size_addMember (make : MemberId → Member) :
    (a.addMember make).2.members.size = a.members.size + 1 := by
  simp [addMember, modifyClass]

lemma extent_addMember (make : MemberId → Member) : a.extent.Le (a.addMember make).2.extent where
  classes := by simp [Atlas.extent, addMember, Atlas.modifyClass]
  members := by simp [Atlas.extent, size_addMember]
  accesses := le_rfl
  vars := le_rfl

lemma InRange.addMember (h : a.InRange) {make : MemberId → Member}
    (hwithin : ∀ id, (make id).Within a.extent) : (a.addMember make).2.InRange := by
  have hle := a.extent_addMember make
  refine h.of_changes hle (fun c hc => ?_) (fun m hm => ?_) (fun i hi => Or.inl ⟨hi, rfl⟩)
    fun v hv => Or.inl ⟨hv, rfl⟩
  · rw [show (a.addMember make).2.classes.size = a.classes.size from size_modifyClass ..] at hc
    rw [cls_addMember]
    split_ifs
    · have hold := (h.cls c hc).mono hle
      refine Or.inr { hold with members := fun m hm => ?_ }
      rcases List.mem_append.mp hm with hm | hm
      · exact hold.members m hm
      · rw [List.mem_singleton.mp hm]
        exact (size_addMember make).ge
    · exact Or.inl ⟨hc, rfl⟩
  · rw [member_addMember]
    split_ifs with hnew
    · exact Or.inr ((hwithin _).mono hle)
    · rw [size_addMember] at hm
      exact Or.inl ⟨by omega, rfl⟩

lemma InRange.modifyMember (h : a.InRange) {id : MemberId} {change : Member → Member}
    (hwithin : (a.member id).Within a.extent → (change (a.member id)).Within a.extent) :
    (a.modifyMember id change).InRange := by
  have hextent : (a.modifyMember id change).extent = a.extent := by
    simp [Atlas.extent, Atlas.modifyMember]
  refine h.of_changes (hextent ▸ Extent.Le.refl _) (fun c hc => Or.inl ⟨hc, rfl⟩) (fun m hm => ?_)
    (fun i hi => Or.inl ⟨hi, rfl⟩) fun v hv => Or.inl ⟨hv, rfl⟩
  rw [size_modifyMember] at hm
  rw [member_modifyMember, hextent]
  split_ifs with hid
  · obtain ⟨rfl, -⟩ := hid
    exact Or.inr (hwithin (h.member m hm))
  · exact Or.inl ⟨hm, rfl⟩

lemma size_addAccess (make : AccessId → Access) :
    (a.addAccess make).2.accesses.size = a.accesses.size + 1 := by
  simp [addAccess]

lemma InRange.addAccess (h : a.InRange) {make : AccessId → Access}
    (hwithin : ∀ id, (make id).Within a.extent) : (a.addAccess make).2.InRange := by
  have hle : a.extent.Le (a.addAccess make).2.extent :=
    ⟨le_rfl, le_rfl, by simp [Atlas.extent, size_addAccess], le_rfl⟩
  refine h.of_changes hle (fun c hc => Or.inl ⟨hc, rfl⟩) (fun m hm => Or.inl ⟨hm, rfl⟩)
    (fun i hi => ?_) fun v hv => Or.inl ⟨hv, rfl⟩
  rw [access_addAccess]
  split_ifs with hnew
  · exact Or.inr ((hwithin _).mono hle)
  · rw [size_addAccess] at hi
    exact Or.inl ⟨by omega, rfl⟩

/-! ## Integrity of an atlas -/

/-- The positions in an atlas fit together. -/
structure Integral (a : Atlas) : Prop where
  inRange : a.InRange
  memberId : ∀ m : MemberId, m.index < a.members.size → (a.member m).id = m
  varId : ∀ v : VarId, v.index < a.typeVars.size → (a.typeVar v).id = v
  /-- A member is listed once by its owner. -/
  listed : ∀ m : MemberId, m.index < a.members.size →
    (a.cls (a.member m).owner).members.count m = 1
  /-- An access is listed by nothing but the code unit it starts from. -/
  origin : ∀ (m : MemberId), ∀ i ∈ (a.member m).accesses, (a.access i).origin = m

/-- A change of classes and variables keeps what is said of members and accesses. -/
lemma Integral.of_members (h : a.Integral) (hrange : a'.InRange)
    (hvar : ∀ v : VarId, v.index < a'.typeVars.size → (a'.typeVar v).id = v)
    (hlists : ∀ c, (a'.cls c).members = (a.cls c).members) (hmembers : a'.members = a.members)
    (haccesses : a'.accesses = a.accesses) : a'.Integral := by
  have hmember : ∀ m, a'.member m = a.member m := fun m => by rw [member, member, hmembers]
  refine ⟨hrange, fun m hm => ?_, hvar, fun m hm => ?_, fun m i hi => ?_⟩
  · rw [hmembers] at hm
    rw [hmember]
    exact h.memberId m hm
  · rw [hmembers] at hm
    rw [hmember, hlists]
    exact h.listed m hm
  · rw [hmember] at hi
    rw [access, haccesses]
    exact h.origin m i hi

lemma Integral.addMember (h : a.Integral) {make : MemberId → Member}
    (howner : ∀ id, (make id).owner.index < a.classes.size) (hid : ∀ id, (make id).id = id)
    (hwithin : ∀ id, (make id).Within a.extent) (haccesses : ∀ id, (make id).accesses = []) :
    (a.addMember make).2.Integral := by
  refine ⟨h.inRange.addMember hwithin, fun m hm => ?_, h.varId, fun m hm => ?_, fun m i hi => ?_⟩
  · rw [member_addMember]
    split_ifs with hnew
    · rw [hid, ← hnew]
    · rw [size_addMember] at hm
      exact h.memberId m (by omega)
  · rw [member_addMember]
    split_ifs with hnew
    · -- the new position is in no list yet
      have hfresh : m ∉ (a.cls (make ⟨a.members.size⟩).owner).members := fun hmem =>
        absurd ((h.inRange.cls _ (howner _)).members m hmem) (hnew ▸ lt_irrefl _)
      obtain ⟨i⟩ := m
      subst hnew
      rw [cls_addMember, if_pos ⟨rfl, howner _⟩]
      simp [List.count_eq_zero.mpr hfresh]
    · rw [size_addMember] at hm
      have hold := h.listed m (by omega)
      rw [cls_addMember]
      split_ifs
      · have hne : (⟨a.members.size⟩ : MemberId) ≠ m := fun heq => hnew (heq ▸ rfl)
        simp [hold, hne]
      · exact hold
  · rw [member_addMember] at hi
    split_ifs at hi
    · rw [haccesses] at hi
      cases hi
    · exact h.origin m i hi

lemma Integral.modifyMember (h : a.Integral) {id : MemberId} {change : Member → Member}
    (hsame : Linker.SameMember (a.member id) (change (a.member id)))
    (hwithin : (a.member id).Within a.extent → (change (a.member id)).Within a.extent)
    (haccesses : ∀ i ∈ (change (a.member id)).accesses,
      i ∈ (a.member id).accesses ∨ (a.access i).origin = id) :
    (a.modifyMember id change).Integral := by
  refine ⟨h.inRange.modifyMember hwithin, fun m hm => ?_, h.varId, fun m hm => ?_,
    fun m i hi => ?_⟩
  · rw [size_modifyMember] at hm
    rw [member_modifyMember]
    split_ifs with hid
    · obtain ⟨rfl, -⟩ := hid
      exact hsame.id.trans (h.memberId m hm)
    · exact h.memberId m hm
  · rw [size_modifyMember] at hm
    rw [member_modifyMember]
    split_ifs with hid
    · obtain ⟨rfl, -⟩ := hid
      rw [hsame.owner]
      exact h.listed m hm
    · exact h.listed m hm
  · rw [member_modifyMember] at hi
    split_ifs at hi with hid
    · obtain ⟨rfl, -⟩ := hid
      exact (haccesses i hi).elim (h.origin m i) fun horigin => horigin
    · exact h.origin m i hi

lemma Integral.addAccess (h : a.Integral) {make : AccessId → Access}
    (hwithin : ∀ id, (make id).Within a.extent) : (a.addAccess make).2.Integral := by
  refine ⟨h.inRange.addAccess hwithin, h.memberId, h.varId, h.listed, fun m i hi => ?_⟩
  have hi : i ∈ (a.member m).accesses := hi
  -- what is listed was there before
  have hm := Linker.lt_of_not_isField (Member.isField_of_mem_accesses hi)
  have hlt : i.index < a.accesses.size := (h.inRange.member m hm).access_lt hi
  rw [access_addAccess, if_neg (ne_of_lt hlt)]
  exact h.origin m i hi

end Atlas

namespace Linker

open Atlas

variable {s t : Linker} {context : ImportContext} {options : ImportOptions} {files : Files}

/-- **Every edit keeps the integrity of an atlas.** -/
theorem Edit.integral (h : Edit s t) (hs : s.WF) (ha : s.atlas.Integral) : t.atlas.Integral := by
  have hnamed := (h.wf hs).named
  cases h with
  | grow h =>
      refine ha.of_members (ha.inRange.grows h.atlas hnamed) (fun v hv => ?_) h.atlas.classMembers
        h.atlas.members h.atlas.accesses
      rcases lt_or_ge v.index s.atlas.typeVars.size with hold | hnew
      · rw [h.atlas.typeVar v hold]
        exact ha.varId v hold
      · exact (h.atlas.added v hnew hv).1
  | cls id change _ hsame _ hwithin =>
      exact ha.of_members (ha.inRange.modifyClass hwithin) ha.varId
        (keep_modifyClass _ _ (fun c => (hsame c).members) id) rfl rfl
  | supertypes id superclass interfaces himported hfits =>
      obtain ⟨-, hframe⟩ := setSupertypes_frame id superclass interfaces s.atlas
      refine ha.of_members (ha.inRange.setSupertypes (lt_of_imported himported) hfits) ?_
        (keep_setSupertypes ClassNode.members (fun _ _ => rfl) (fun _ _ _ => rfl) id superclass
          interfaces s.atlas) (by rw [hframe]) (by rw [hframe])
      rw [hframe]
      exact ha.varId
  | bounds v types _ hfits =>
      refine ha.of_members (ha.inRange.setBounds v hfits) (fun w hw => ?_) (fun _ => rfl) rfl rfl
      rw [size_setBounds] at hw
      rw [typeVar_setBounds]
      split_ifs <;> exact ha.varId w hw
  | addMember make himported _ _ hid hwithin haccesses =>
      exact ha.addMember (fun id => lt_of_imported (himported id)) hid hwithin haccesses
  | member id change hsame _ _ hwithin haccesses =>
      exact ha.modifyMember hsame hwithin haccesses
  | access make _ _ hwithin => exact ha.addAccess hwithin
  | pending => exact ha

lemma Started.integral (h : Started context s) : s.atlas.Integral := by
  have hregistered := h.registered
  refine ⟨⟨fun c hc => ?_, ?_, ?_, ?_⟩, ?_, ?_, ?_, fun m i hi => ?_⟩
  · exact (hregistered.blank c).within fun d hd =>
      (hregistered.named.component_lt hc hd).trans hc
  · simp [hregistered.members]
  · simp [hregistered.accesses]
  · simp [hregistered.typeVars]
  · simp [hregistered.members]
  · simp [hregistered.typeVars]
  · simp [hregistered.members]
  · rw [member_eq_default (by simp [hregistered.members])] at hi
    cases hi

/-! ## Answers -/

/-- Whether an answer is an error that linking can end with: a type name that is invalid, or a phase
that is not the next one. -/
def Expected (answer : Except ModelError (Option ClassId)) : Prop :=
  (∃ id, answer = .ok id) ∨ (∃ name, answer = .error (.invalidTypeName name)) ∨
    ∃ expected actual, answer = .error (.phaseOrder expected actual)

/-- A request fails for two reasons only. -/
lemma perform_answer (hs : Valid s) (r : Request) : Expected (s.perform r).1 := by
  rcases hr : r.phase? with _ | p
  · obtain ⟨name, rfl⟩ := Request.eq_cls hr
    rw [perform, EStateM.run]
    rcases hx : Request.step (.cls name) s with ⟨id, t⟩ | ⟨e, t⟩
    · exact Or.inl ⟨id, rfl⟩
    · obtain ⟨-, -, invalid, rfl⟩ := (moves_cls s name).of_error hx
      exact Or.inr (Or.inl ⟨invalid, rfl⟩)
  · by_cases hphase : s.phase = p.expected
    · obtain ⟨-, -, -, hcarried⟩ := perform_started hr hs hphase
      exact hcarried.imp (fun h => ⟨none, h⟩) Or.inl
    · rw [perform_of_ne hr hphase]
      exact Or.inr (Or.inr ⟨p.expected, s.phase, rfl⟩)

lemma run_answers (hs : Valid s) (rs : List Request) :
    ∀ answer ∈ (s.run rs).1, Expected answer := by
  induction rs generalizing s with
  | nil => simp [run]
  | cons r rs ih =>
      intro answer hanswer
      rcases List.mem_cons.mp hanswer with rfl | hanswer
      · exact perform_answer hs r
      · exact ih (perform_valid hs r).1 answer hanswer

/-! ## Integrity of every state -/

/-- The classes, members, accesses and type variables of a state fit together. -/
structure Intact (s : Linker) : Prop where
  classId : ∀ c : ClassId, c.index < s.atlas.classes.size → (s.atlas.cls c).id = c
  memberId : ∀ m : MemberId, m.index < s.atlas.members.size → (s.atlas.member m).id = m
  accessId : ∀ i : AccessId, i.index < s.atlas.accesses.size → (s.atlas.access i).id = i
  varId : ∀ v : VarId, v.index < s.atlas.typeVars.size → (s.atlas.typeVar v).id = v
  /-- Different classes have different names. -/
  distinct : ∀ c d : ClassId, c.index < s.atlas.classes.size → d.index < s.atlas.classes.size →
    (s.atlas.cls c).name = (s.atlas.cls d).name → c = d
  /-- A known name is read as the type of its class, in binary form the name of the class. -/
  known : ∀ name c, s.atlas.names.get? name = some c → ∃ type registry,
    s.atlas.registry.describe name.toList = .ok (type, registry) ∧
      Registry.Denotes name.toList type ∧ (s.atlas.cls c).name = type.name
  /-- A class is known by its name. -/
  own : ∀ c : ClassId, c.index < s.atlas.classes.size →
    s.atlas.names.get? (s.atlas.cls c).name = some c
  component : ∀ c : ClassId, c.index < s.atlas.classes.size →
    ((s.atlas.cls c).component.isSome = true ↔ (s.atlas.cls c).isArray = true) ∧
      ∀ d ∈ (s.atlas.cls c).component, d.index < c.index
  /-- A member is listed once by its owner, and by no other class. -/
  listed : ∀ m : MemberId, m.index < s.atlas.members.size →
    (s.atlas.cls (s.atlas.member m).owner).members.count m = 1 ∧
      ∀ c, m ∈ (s.atlas.cls c).members → c = (s.atlas.member m).owner
  /-- An access is listed by the code unit it starts from, and by no other member. -/
  accessed : ∀ i : AccessId, i.index < s.atlas.accesses.size →
    (s.atlas.member (s.atlas.access i).origin).isField = false ∧
      ∀ m, i ∈ (s.atlas.member m).accesses ↔ m = (s.atlas.access i).origin
  imported : s.atlas.imported.toList.Nodup ∧ ∀ c, c ∈ s.atlas.imported.toList ↔
    c.index < s.atlas.classes.size ∧ (s.atlas.cls c).imported = true
  inRange : s.atlas.InRange
  names : ∀ name c, s.atlas.names.get? name = some c → c.index < s.atlas.classes.size
  pending : ∀ entry ∈ s.pending, entry.1.index < s.atlas.members.size
  undeclared : ∀ entry ∈ s.undeclared,
    entry.1.1.Within s.atlas.extent ∧ entry.2.index < s.atlas.typeVars.size

lemma Valid.intact (hs : Valid s) (hconsistent : Consistent context s.atlas)
    (hintegral : s.atlas.Integral) : Intact s where
  classId := hs.wf.named.position
  memberId := hintegral.memberId
  accessId i hi := hconsistent.accessId hi
  varId := hintegral.varId
  distinct c d hc hd := hs.wf.named.name_inj hc hd
  known name c hname := by
    have hget := hs.wf.named.registered hname
    refine ⟨(s.atlas.cls c).type, s.atlas.registry, ?_, hs.wf.named.denotes hname, rfl⟩
    rw [Registry.describe, String.ofList_toList]
    simp [hget]
  own := hs.wf.named.own
  component c hc := by
    refine ⟨?_, fun d hd => hs.wf.named.component_lt hc hd⟩
    rcases hs.wf.named.composed c hc with ⟨hnone, harray⟩ | ⟨d, hd, -, htype⟩
    · simp [hnone, ClassNode.isArray, harray]
    · simp [hd, ClassNode.isArray, htype, Descriptor.isArray]
  listed m hm := ⟨hintegral.listed m hm, fun c hc => (hconsistent.owner hc).2.symm⟩
  accessed i hi := by
    have hlisted := hs.lists i hi
    refine ⟨Member.isField_of_mem_accesses hlisted, fun m => ⟨fun hm => ?_, ?_⟩⟩
    · exact (hintegral.origin m i hm).symm
    · rintro rfl
      exact hlisted
  imported := by
    refine ⟨hs.nodup, fun c => ?_⟩
    rw [hs.mem_imported]
    exact ⟨fun h => ⟨lt_of_imported h, h⟩, And.right⟩
  inRange := hintegral.inRange
  names name c := hs.wf.named.inRange
  pending entry hentry := lt_of_not_isField (hs.units entry hentry)
  undeclared entry hentry := by
    have hloose := hs.wf.undeclared entry hentry
    exact ⟨hloose.owner ▸ (hintegral.inRange.typeVar _ hloose.taken).owner, hloose.taken⟩

/-- **Every state that linking can reach is intact**, after any requests, those that failed
included.  No request fails because a code unit is unknown. -/
theorem run_intact (h : start context options files = .ok s) (rs : List Request) :
    Intact (s.run rs).2 ∧ ∀ answer ∈ (s.run rs).1, ∀ owner name descriptor,
      answer ≠ .error (.unknownCodeUnit owner name descriptor) := by
  have hs := start_eq_ok h
  have hrun := run_invariant
    (P := fun s => s.WF ∧ Consistent s.context s.atlas ∧ s.atlas.Integral)
    (fun s p h => ⟨h.1.withPhase p, h.2⟩)
    (fun s t hwf hedit h => ⟨hedit.wf hwf, hedit.consistent h.2.1, hedit.integral hwf h.2.2⟩)
    hs.valid ⟨hs.wf, hs.consistent, hs.integral⟩ rs
  refine ⟨(run_valid hs.valid rs).intact hrun.2.1 hrun.2.2, ?_⟩
  rintro answer hanswer owner name descriptor rfl
  rcases run_answers hs.valid rs _ hanswer with ⟨_, h⟩ | ⟨_, h⟩ | ⟨_, _, h⟩ <;> cases h

/-- A class whose superclass has a name that cannot be read, with an array and a call. -/
def brokenBatch : Batch :=
  ⟨[{ name := "a.A"
      superclass := some (.cls "")
      fields := [{ name := "f", type := .cls "int[]" }]
      constructors := [.callingConstructor (.constructor []) "a.B" [] 3] }]⟩

/-- A phase that is asked for too early does no harm. -/
theorem run_intact_brokenBatch :
    ∃ s, start brokenBatch.context {} .none = .ok s ∧
      .error (.phaseOrder .hierarchy .created) ∈
        (s.run [.members, .cls "a.B[]", .hierarchy, .members, .accesses]).1 ∧
      Intact (s.run [.members, .cls "a.B[]", .hierarchy, .members, .accesses]).2 ∧
      ∀ owner name descriptor, .error (.unknownCodeUnit owner name descriptor) ∉
        (s.run [.members, .cls "a.B[]", .hierarchy, .members, .accesses]).1 := by
  have hread : ∀ h ∈ brokenBatch.context.headers, Registry.readable h.name.toList = true := by
    decide +kernel
  obtain ⟨s, hstart⟩ := start_isOk {} .none hread
  have hphase : s.phase = .created := (start_eq_ok hstart).phase
  obtain ⟨hintact, hanswers⟩ :=
    run_intact hstart [.members, .cls "a.B[]", .hierarchy, .members, .accesses]
  refine ⟨s, hstart, ?_, hintact, fun owner name descriptor hmem => ?_⟩
  · rw [run, perform_of_ne (r := .members) rfl (by rw [hphase]; exact Phase.noConfusion), hphase]
    exact List.mem_cons_self ..
  · exact hanswers _ hmem owner name descriptor rfl

end Linker

end ClassAtlas
