import ClassAtlas.Proofs.Linker.Runs

/-!
# Consistency

The parts of an atlas that refer to each other both ways agree, and constructors and accesses come
from records, after every edit and so after every run.

* `Consistent` — what agrees.
* `Edit.consistent` — every edit keeps it.
* `Completed.consistent` — **every atlas that is handed out is consistent**.
-/

namespace ClassAtlas.Linker

variable {s t : Linker} {context : ImportContext} {a a' : Atlas}

/-- The parts of an atlas that refer to each other both ways agree, and constructors and accesses
come from records of a context. -/
structure Consistent (context : ImportContext) (a : Atlas) : Prop where
  /-- A class is listed below its superclass and its interfaces. -/
  below : ∀ {c p : ClassId}, p ∈ (a.cls c).rawSupertypes → p ≠ c → c ∈ (a.cls p).subclasses
  /-- What is listed below a class has it as superclass or interface. -/
  above : ∀ {c p : ClassId}, c ∈ (a.cls p).subclasses → p ∈ (a.cls c).rawSupertypes
  /-- The members of a class are owned by it. -/
  owner : ∀ {c : ClassId} {m : MemberId}, m ∈ (a.cls c).members →
    m.index < a.members.size ∧ (a.member m).owner = c
  /-- A constructor has the name of a record of a constructor. -/
  constructor : ∀ {m : MemberId}, (a.member m).isConstructor = true →
    ∃ name, ∃ r ∈ context.constructors name, r.name = (a.member m).name
  /-- An access knows its position. -/
  accessId : ∀ {i : AccessId}, i.index < a.accesses.size → (a.access i).id = i
  /-- An access is of the kind and name of a record. -/
  target : ∀ {i : AccessId}, i.index < a.accesses.size → ∃ key, ∃ r ∈ context.uses key,
    (a.access i).kind = r.kind ∧ (a.access i).target.kind = r.kind.targetKind ∧
    (a.access i).target.name = r.name

/-- An atlas stays consistent if neither members nor accesses change and classes are still listed
below their supertypes, and only there. -/
lemma Consistent.of_members (h : Consistent context a)
    (hbelow : ∀ {c p : ClassId}, p ∈ (a'.cls c).rawSupertypes → p ≠ c →
      c ∈ (a'.cls p).subclasses)
    (habove : ∀ {c p : ClassId}, c ∈ (a'.cls p).subclasses → p ∈ (a'.cls c).rawSupertypes)
    (hlisted : ∀ c, (a'.cls c).members = (a.cls c).members) (hmembers : a'.members = a.members)
    (haccesses : a'.accesses = a.accesses) : Consistent context a' := by
  have hmember : ∀ m, a'.member m = a.member m := fun m => by rw [Atlas.member, hmembers]; rfl
  have haccess : ∀ i, a'.access i = a.access i := fun i => by rw [Atlas.access, haccesses]; rfl
  refine ⟨hbelow, habove, fun {c m} => ?_, fun {m} => ?_, fun {i} => ?_, fun {i} => ?_⟩
  · rw [hlisted, hmembers, hmember]
    exact h.owner
  · rw [hmember]
    exact h.constructor
  · rw [haccesses, haccess]
    exact h.accessId
  · rw [haccesses, haccess]
    exact h.target

/-- Two nodes of a class with the same classes above and below it. -/
structure SameLinks (c c' : ClassNode) : Prop where
  rawSupertypes : c'.rawSupertypes = c.rawSupertypes
  subclasses : c'.subclasses = c.subclasses

lemma SamePlace.sameLinks {c c' : ClassNode} (h : SamePlace c c') : SameLinks c c' where
  rawSupertypes := by
    simp only [ClassNode.rawSupertypes, ClassNode.rawSuperclass, ClassNode.rawInterfaces,
      h.superclass, h.interfaces]
  subclasses := h.subclasses

lemma sameLinks_of_bare {c c' : ClassNode} (h : c.Bare) (h' : c'.Bare) : SameLinks c c' where
  rawSupertypes := by
    simp only [ClassNode.rawSupertypes, ClassNode.rawSuperclass, ClassNode.rawInterfaces,
      h.superclass, h.interfaces, h'.superclass, h'.interfaces]
  subclasses := h'.subclasses.trans h.subclasses.symm

lemma Consistent.below_of_sameLinks (h : Consistent context a)
    (hcls : ∀ c, SameLinks (a.cls c) (a'.cls c)) {c p : ClassId}
    (hp : p ∈ (a'.cls c).rawSupertypes) (hne : p ≠ c) : c ∈ (a'.cls p).subclasses := by
  rw [(hcls c).rawSupertypes] at hp
  rw [(hcls p).subclasses]
  exact h.below hp hne

lemma Consistent.above_of_sameLinks (h : Consistent context a)
    (hcls : ∀ c, SameLinks (a.cls c) (a'.cls c)) {c p : ClassId}
    (hc : c ∈ (a'.cls p).subclasses) : p ∈ (a'.cls c).rawSupertypes := by
  rw [(hcls p).subclasses] at hc
  rw [(hcls c).rawSupertypes]
  exact h.above hc

lemma Consistent.grows (h : Consistent context a) (hgrows : a.Grows a') :
    Consistent context a' := by
  have hcls : ∀ c, SameLinks (a.cls c) (a'.cls c) := by
    intro c
    rcases hgrows.cls_eq_or_bare c with heq | ⟨hb, hb'⟩
    · rw [heq]
      exact ⟨rfl, rfl⟩
    · exact sameLinks_of_bare hb hb'
  exact h.of_members (h.below_of_sameLinks hcls) (h.above_of_sameLinks hcls) hgrows.classMembers
    hgrows.members hgrows.accesses

/-- Setting supertypes lists the class below them.  It was listed nowhere, as it had none. -/
lemma Consistent.setSupertypes (h : Consistent context a) {id : ClassId}
    {superclass : Option TypeRef} {interfaces : List TypeRef}
    (hfits : ∀ type ∈ superclass.toList ++ interfaces,
      type.Within a.classes.size a.typeVars.size)
    (hnew : (a.cls id).supertypes = (none, [])) :
    Consistent context (Linker.setSupertypes id superclass interfaces a) := by
  obtain ⟨-, hframe⟩ := setSupertypes_frame id superclass interfaces a
  refine h.of_members (fun {c p} hp hne => ?_) (fun {c p} hc => ?_)
    (keep_setSupertypes ClassNode.members (fun _ _ => rfl) (fun _ _ _ => rfl) id superclass
      interfaces a) (by rw [hframe]) (by rw [hframe])
  · rw [mem_subclasses_setSupertypes]
    rw [rawSupertypes_setSupertypes] at hp
    split_ifs at hp with hc
    · obtain ⟨rfl, hlt⟩ := hc
      obtain ⟨type, htype, hraw⟩ := List.mem_filterMap.mp hp
      refine Or.inr ⟨rfl, hne, (hfits type htype).rawClass_lt hraw, ?_⟩
      rw [rawSupertypes_setSupertypes, if_pos ⟨rfl, hlt⟩]
      exact hp
    · exact Or.inl (h.below hp hne)
  · rcases (mem_subclasses_setSupertypes ..).mp hc with hold | ⟨rfl, -, -, hp⟩
    · have hp := h.above hold
      rw [rawSupertypes_setSupertypes, if_neg]
      · exact hp
      · rintro ⟨rfl, -⟩
        rw [ClassNode.rawSupertypes_of_supertypes hnew] at hp
        cases hp
    · exact hp

/-- A member that is added is listed by its owner. -/
lemma Consistent.addMember (h : Consistent context a) {make : MemberId → Member}
    (hkind : ∀ id, (make id).isConstructor = false) :
    Consistent context (a.addMember make).2 := by
  have hsize : (a.addMember make).2.members.size = a.members.size + 1 := by
    simp [Atlas.addMember, Atlas.modifyClass]
  have hcls : ∀ c, SameLinks (a.cls c) ((a.addMember make).2.cls c) := by
    intro c
    rw [Atlas.cls_addMember]
    split_ifs <;> exact ⟨rfl, rfl⟩
  refine ⟨h.below_of_sameLinks hcls, h.above_of_sameLinks hcls, fun {c m} hm => ?_,
    fun {m} hm => ?_, h.accessId, h.target⟩
  · rw [hsize, Atlas.member_addMember]
    have hold : m ∈ (a.cls c).members → m.index < a.members.size + 1 ∧
        (if m.index = a.members.size then make ⟨a.members.size⟩ else a.member m).owner = c := by
      intro hmem
      obtain ⟨hlt, howner⟩ := h.owner hmem
      rw [if_neg hlt.ne]
      exact ⟨hlt.trans (Nat.lt_succ_self _), howner⟩
    rw [Atlas.cls_addMember] at hm
    split_ifs at hm with hc
    · rcases List.mem_append.mp hm with hmem | hnew
      · exact hold hmem
      · cases List.mem_singleton.mp hnew
        rw [if_pos rfl]
        exact ⟨Nat.lt_succ_self _, hc.1.symm⟩
    · exact hold hm
  · rw [Atlas.member_addMember] at hm ⊢
    split_ifs at hm ⊢
    · rw [hkind] at hm
      cases hm
    · exact h.constructor hm

/-- A member keeps its owner and becomes a constructor only if there is a record of one. -/
lemma Consistent.modifyMember (h : Consistent context a) {id : MemberId}
    {change : Member → Member} (hsame : SameMember (a.member id) (change (a.member id)))
    (hkind : (change (a.member id)).isConstructor = true → (a.member id).isConstructor = true ∨
      ∃ name, ∃ r ∈ context.constructors name, r.name = (a.member id).name) :
    Consistent context (a.modifyMember id change) := by
  refine ⟨h.below, h.above, fun {c m} hm => ?_, fun {m} hm => ?_, h.accessId, h.target⟩
  · obtain ⟨hlt, howner⟩ := h.owner hm
    rw [Atlas.size_modifyMember, Atlas.member_modifyMember]
    refine ⟨hlt, ?_⟩
    split_ifs with hid
    · obtain ⟨rfl, -⟩ := hid
      exact hsame.owner.trans howner
    · exact howner
  · rw [Atlas.member_modifyMember] at hm ⊢
    split_ifs at hm ⊢ with hid
    · obtain ⟨rfl, -⟩ := hid
      rw [hsame.name]
      exact (hkind hm).elim h.constructor id
    · exact h.constructor hm

/-- An access that is added knows its position. -/
lemma Consistent.addAccess (h : Consistent context a) {make : AccessId → Access}
    (hid : ∀ id, (make id).id = id)
    (hrecord : ∀ id, ∃ key, ∃ r ∈ context.uses key,
      (make id).kind = r.kind ∧ (make id).target.kind = r.kind.targetKind ∧
      (make id).target.name = r.name) :
    Consistent context (a.addAccess make).2 := by
  have hlt : ∀ {i : AccessId}, i.index < (a.addAccess make).2.accesses.size →
      i.index ≠ a.accesses.size → i.index < a.accesses.size := by
    intro i hi hne
    rw [Atlas.addAccess, Array.size_push] at hi
    omega
  refine ⟨h.below, h.above, h.owner, h.constructor, fun {i} hi => ?_, fun {i} hi => ?_⟩
  · rw [Atlas.access_addAccess]
    split_ifs with hnew
    · rw [hid, ← hnew]
    · exact h.accessId (hlt hi hnew)
  · rw [Atlas.access_addAccess]
    split_ifs with hnew
    · exact hrecord _
    · exact h.target (hlt hi hnew)

/-- **Every edit keeps an atlas consistent.** -/
theorem Edit.consistent (h : Edit s t) (hs : Consistent s.context s.atlas) :
    Consistent t.context t.atlas := by
  cases h with
  | grow h => exact h.context ▸ hs.grows h.atlas
  | cls id change _ hsame _ =>
      have hcls : ∀ c, SameLinks (s.atlas.cls c) ((s.atlas.modifyClass id change).cls c) := by
        intro c
        rw [Atlas.cls_modifyClass]
        split_ifs
        · exact (hsame _).sameLinks
        · exact ⟨rfl, rfl⟩
      exact hs.of_members (hs.below_of_sameLinks hcls) (hs.above_of_sameLinks hcls)
        (Atlas.keep_modifyClass _ _ (fun c => (hsame c).members) id) rfl rfl
  | supertypes _ _ _ _ hfits hnew => exact hs.setSupertypes hfits hnew
  | bounds => exact hs.of_members hs.below hs.above (fun _ => rfl) rfl rfl
  | addMember _ _ _ hkind => exact hs.addMember hkind
  | member _ _ hsame _ hkind => exact hs.modifyMember hsame hkind
  | access _ hid hrecord => exact hs.addAccess hid hrecord
  | pending => exact hs

lemma Started.consistent (h : Started context s) : Consistent s.context s.atlas := by
  refine ⟨fun {c p} hp => ?_, fun {c p} hc => ?_, fun {c m} hm => ?_, fun {m} hm => ?_,
    fun {i} hi => ?_, fun {i} hi => ?_⟩
  · have hblank := h.registered.blank c
    simp [ClassNode.rawSupertypes, ClassNode.rawSuperclass, ClassNode.rawInterfaces,
      hblank.superclass, hblank.interfaces] at hp
  · rw [(h.registered.blank p).subclasses] at hc
    cases hc
  · rw [(h.registered.blank c).members] at hm
    cases hm
  · rw [Atlas.member_eq_default (by simp [h.registered.members])] at hm
    cases hm
  · simp [h.registered.accesses] at hi
  · simp [h.registered.accesses] at hi

/-- **Every atlas that is handed out is consistent.** -/
theorem Completed.consistent (h : Completed context a) : Consistent context a := by
  obtain ⟨options, files, s, rs, hstart, hfinish⟩ := h
  have hs := start_eq_ok hstart
  obtain ⟨hcontext, hrun⟩ :=
    run_invariant (P := fun s => s.context = context ∧ Consistent s.context s.atlas)
      (fun _ _ h => h) (fun _ _ _ hedit h => ⟨hedit.frame.context.trans h.1, hedit.consistent h.2⟩)
      hs.valid ⟨hs.context, hs.consistent⟩ rs
  rw [hcontext, finish_eq_ok hfinish] at hrun
  exact hrun

end ClassAtlas.Linker
