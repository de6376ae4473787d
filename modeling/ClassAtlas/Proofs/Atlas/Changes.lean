import ClassAtlas.Linker.Phases
import ClassAtlas.Proofs.Atlas.Range

/-!
# Changing an atlas

What is found at each position after a class, a member or a type variable was changed or added.

* `Atlas.cls_modifyClass`, `Atlas.member_modifyMember`, `Atlas.typeVar_setBounds` — after a change.
* `Atlas.keep_modifyClass` — what a change of a class leaves alone stays everywhere.
* `Linker.keep_setSupertypes`, `Linker.mem_subclasses_setSupertypes` — after supertypes were set.
-/

namespace ClassAtlas

lemma getD_modify {α : Type} [Inhabited α] (xs : Array α) (i j : ℕ) (change : α → α) :
    (xs.modify i change).getD j default =
      if j = i ∧ j < xs.size then change (xs.getD j default) else xs.getD j default := by
  simp only [Array.getD_eq_getD_getElem?, Array.getElem?_modify]
  rcases lt_or_ge j xs.size with hj | hj
  · by_cases h : j = i
    · subst h
      simp [hj]
    · simp [h, Ne.symm h]
  · simp [not_lt.mpr hj]

namespace Atlas

variable {β : Type} (a : Atlas)

/-! ## Classes -/

@[simp] lemma size_modifyClass (id : ClassId) (change : ClassNode → ClassNode) :
    (a.modifyClass id change).classes.size = a.classes.size := by
  simp [modifyClass]

lemma cls_modifyClass (id : ClassId) (change : ClassNode → ClassNode) (c : ClassId) :
    (a.modifyClass id change).cls c =
      if c = id ∧ c.index < a.classes.size then change (a.cls c) else a.cls c := by
  obtain ⟨i⟩ := id
  obtain ⟨j⟩ := c
  simp only [modifyClass, cls, getD_modify, ClassId.mk.injEq]

/-- What a change of a class leaves alone stays. -/
lemma keep_modifyClass (field : ClassNode → β) {change : ClassNode → ClassNode}
    (h : ∀ c, field (change c) = field c) (id c : ClassId) :
    field ((a.modifyClass id change).cls c) = field (a.cls c) := by
  rw [cls_modifyClass]
  split_ifs
  · exact h _
  · rfl

/-! ## Members and accesses -/

@[simp] lemma size_modifyMember (id : MemberId) (change : Member → Member) :
    (a.modifyMember id change).members.size = a.members.size := by
  simp [modifyMember]

lemma member_eq_default {a : Atlas} {id : MemberId} (h : a.members.size ≤ id.index) :
    a.member id = default := by
  rw [member, Array.getD_eq_getD_getElem?, Array.getElem?_eq_none h, Option.getD_none]

lemma member_modifyMember (id : MemberId) (change : Member → Member) (m : MemberId) :
    (a.modifyMember id change).member m =
      if m = id ∧ m.index < a.members.size then change (a.member m) else a.member m := by
  obtain ⟨i⟩ := id
  obtain ⟨j⟩ := m
  simp only [modifyMember, member, getD_modify, MemberId.mk.injEq]

/-- The member at a position after one was added. -/
lemma member_addMember (make : MemberId → Member) (m : MemberId) :
    (a.addMember make).2.member m =
      if m.index = a.members.size then make ⟨a.members.size⟩ else a.member m := by
  simp only [addMember, modifyClass, member, Array.getD_eq_getD_getElem?, Array.getElem?_push]
  split_ifs <;> rfl

/-- The class at a position after a member was added. -/
lemma cls_addMember (make : MemberId → Member) (c : ClassId) :
    (a.addMember make).2.cls c =
      if c = (make ⟨a.members.size⟩).owner ∧ c.index < a.classes.size then
        { a.cls c with members := (a.cls c).members ++ [⟨a.members.size⟩] }
      else a.cls c :=
  cls_modifyClass _ _ _ c

/-- Adding a member leaves all of a class alone but the list of its members. -/
lemma keep_addMember (field : ClassNode → β)
    (h : ∀ c members, field { c with members := members } = field c) (make : MemberId → Member)
    (c : ClassId) : field ((a.addMember make).2.cls c) = field (a.cls c) :=
  keep_modifyClass _ field (fun c => h c _) _ c

lemma access_addAccess (make : AccessId → Access) (i : AccessId) :
    (a.addAccess make).2.access i =
      if i.index = a.accesses.size then make ⟨a.accesses.size⟩ else a.access i := by
  simp only [addAccess, access, Array.getD_eq_getD_getElem?, Array.getElem?_push]
  split_ifs <;> rfl

/-! ## Type variables -/

@[simp] lemma size_setBounds (id : VarId) (bounds : List TypeRef) :
    (a.setBounds id bounds).typeVars.size = a.typeVars.size := by
  simp [setBounds]

lemma typeVar_setBounds (id : VarId) (bounds : List TypeRef) (v : VarId) :
    (a.setBounds id bounds).typeVar v =
      if v = id ∧ v.index < a.typeVars.size then { a.typeVar v with bounds := bounds }
      else a.typeVar v := by
  obtain ⟨i⟩ := id
  obtain ⟨j⟩ := v
  simp only [setBounds, typeVar, getD_modify, VarId.mk.injEq]

end Atlas

/-! ## Supertypes -/

namespace Linker

open Atlas

/-- Lists a class below others. -/
def listBelow (id : ClassId) (above : List ClassId) (a : Atlas) : Atlas :=
  above.foldl (fun a supertype =>
    a.modifyClass supertype fun c => { c with subclasses := c.subclasses ++ [id] }) a

/-- Supertypes are set in two steps. -/
lemma setSupertypes_eq (id : ClassId) (superclass : Option TypeRef) (interfaces : List TypeRef)
    (a : Atlas) :
    setSupertypes id superclass interfaces a =
      let set := a.modifyClass id fun c =>
        { c with superclass := superclass, interfaces := interfaces }
      listBelow id ((set.cls id).rawSupertypes.filter (· ≠ id)) set :=
  rfl

lemma listBelow_cons (id p : ClassId) (above : List ClassId) (a : Atlas) :
    listBelow id (p :: above) a = listBelow id above
      (a.modifyClass p fun c => { c with subclasses := c.subclasses ++ [id] }) :=
  rfl

/-- Nothing but the classes changes, and they not in number. -/
lemma listBelow_frame (id : ClassId) : ∀ (above : List ClassId) (a : Atlas),
    (listBelow id above a).classes.size = a.classes.size ∧
      listBelow id above a = { a with classes := (listBelow id above a).classes }
  | [], _ => ⟨rfl, rfl⟩
  | p :: above, a => by
      rw [listBelow_cons]
      obtain ⟨hsize, hframe⟩ := listBelow_frame id above
        (a.modifyClass p fun c => { c with subclasses := c.subclasses ++ [id] })
      refine ⟨by rw [hsize, size_modifyClass], ?_⟩
      rw [hframe]
      rfl

lemma keep_listBelow {β : Type} (field : ClassNode → β)
    (h : ∀ c subclasses, field { c with subclasses := subclasses } = field c) (id : ClassId) :
    ∀ (above : List ClassId) (a : Atlas) (c : ClassId),
      field ((listBelow id above a).cls c) = field (a.cls c)
  | [], _, _ => rfl
  | p :: above, a, c => by
      rw [listBelow_cons, keep_listBelow field h id above]
      exact keep_modifyClass a field (fun c => h c _) p c

lemma mem_subclasses_listBelow (id : ClassId) : ∀ (above : List ClassId) (a : Atlas)
    (c x : ClassId), x ∈ ((listBelow id above a).cls c).subclasses ↔
      x ∈ (a.cls c).subclasses ∨ x = id ∧ c ∈ above ∧ c.index < a.classes.size
  | [], _, _, _ => by simp [listBelow]
  | p :: above, a, c, x => by
      rw [listBelow_cons, mem_subclasses_listBelow id above, cls_modifyClass, size_modifyClass]
      split_ifs with hp
      · simp only [List.mem_append, List.mem_cons]
        tauto
      · simp only [List.mem_cons]
        tauto

lemma setSupertypes_frame (id : ClassId) (superclass : Option TypeRef)
    (interfaces : List TypeRef) (a : Atlas) :
    (setSupertypes id superclass interfaces a).classes.size = a.classes.size ∧
      setSupertypes id superclass interfaces a =
        { a with classes := (setSupertypes id superclass interfaces a).classes } := by
  rw [setSupertypes_eq]
  dsimp only
  obtain ⟨hsize, hframe⟩ := listBelow_frame id _ (a.modifyClass id fun c =>
    { c with superclass := superclass, interfaces := interfaces })
  refine ⟨hsize.trans (size_modifyClass ..), ?_⟩
  rw [hframe]
  rfl

lemma keep_setSupertypes {β : Type} (field : ClassNode → β)
    (hbelow : ∀ c subclasses, field { c with subclasses := subclasses } = field c)
    (habove : ∀ c superclass interfaces,
      field { c with superclass := superclass, interfaces := interfaces } = field c)
    (id : ClassId) (superclass : Option TypeRef) (interfaces : List TypeRef) (a : Atlas)
    (c : ClassId) : field ((setSupertypes id superclass interfaces a).cls c) = field (a.cls c) := by
  rw [setSupertypes_eq]
  dsimp only
  rw [keep_listBelow field hbelow]
  exact keep_modifyClass a field (fun c => habove c _ _) id c

/-- Of a class whose supertypes are not set, at most the subclasses change. -/
lemma keep_setSupertypes_of_ne {β : Type} (field : ClassNode → β)
    (hbelow : ∀ c subclasses, field { c with subclasses := subclasses } = field c)
    {id c : ClassId} (hne : c ≠ id) (superclass : Option TypeRef) (interfaces : List TypeRef)
    (a : Atlas) : field ((setSupertypes id superclass interfaces a).cls c) = field (a.cls c) := by
  rw [setSupertypes_eq]
  dsimp only
  rw [keep_listBelow field hbelow, cls_modifyClass, if_neg fun h => hne h.1]

/-- The supertypes of the class they are set for. -/
lemma supertypes_setSupertypes {id : ClassId} {a : Atlas} (hid : id.index < a.classes.size)
    (superclass : Option TypeRef) (interfaces : List TypeRef) :
    ((setSupertypes id superclass interfaces a).cls id).supertypes = (superclass, interfaces) := by
  rw [setSupertypes_eq]
  dsimp only
  rw [keep_listBelow ClassNode.supertypes (fun _ _ => rfl), cls_modifyClass, if_pos ⟨rfl, hid⟩]
  rfl

/-- The supertypes of a class after they were set for one. -/
lemma rawSupertypes_setSupertypes (id : ClassId) (superclass : Option TypeRef)
    (interfaces : List TypeRef) (a : Atlas) (c : ClassId) :
    ((setSupertypes id superclass interfaces a).cls c).rawSupertypes =
      if c = id ∧ c.index < a.classes.size then
        (superclass.toList ++ interfaces).filterMap TypeRef.rawClass?
      else (a.cls c).rawSupertypes := by
  rw [setSupertypes_eq]
  dsimp only
  rw [keep_listBelow ClassNode.rawSupertypes (fun _ _ => rfl), cls_modifyClass]
  split_ifs with hc
  · cases superclass with
    | none => rfl
    | some type =>
        rcases hraw : type.rawClass? with _ | raw <;>
          simp [ClassNode.rawSupertypes, ClassNode.rawSuperclass, ClassNode.rawInterfaces, hraw]
  · rfl

/-- The classes below a class after supertypes were set for one. -/
lemma mem_subclasses_setSupertypes (id : ClassId) (superclass : Option TypeRef)
    (interfaces : List TypeRef) (a : Atlas) (c x : ClassId) :
    x ∈ ((setSupertypes id superclass interfaces a).cls c).subclasses ↔
      x ∈ (a.cls c).subclasses ∨ x = id ∧ c ≠ id ∧ c.index < a.classes.size ∧
        c ∈ ((setSupertypes id superclass interfaces a).cls id).rawSupertypes := by
  have hset : ((setSupertypes id superclass interfaces a).cls id).rawSupertypes =
      ((a.modifyClass id fun c =>
        { c with superclass := superclass, interfaces := interfaces }).cls id).rawSupertypes := by
    rw [setSupertypes_eq]
    exact keep_listBelow ClassNode.rawSupertypes (fun _ _ => rfl) _ _ _ _
  have hold : (a.cls c).subclasses = ((a.modifyClass id fun c =>
      { c with superclass := superclass, interfaces := interfaces }).cls c).subclasses := by
    refine (keep_modifyClass a ClassNode.subclasses ?_ id c).symm
    exact fun _ => rfl
  rw [hset, hold, setSupertypes_eq]
  dsimp only
  rw [mem_subclasses_listBelow, size_modifyClass, List.mem_filter, decide_eq_true_iff]
  tauto

end Linker

end ClassAtlas
