import ClassAtlas.Proofs.Linker.Hierarchy

/-!
# Members under way

A member is added first and completed afterwards, so between the two it is the only one that
changes.

* `Preserves` — what was linked before stays as it is.
* `Member.isSigned`, `Building` — one member was added and may still change, but has no signature
  yet.
* `Adds A` — members and annotations were added to classes of `A`.
* `Queues` — the code units among them were queued when they got their signature, in order.
* `Building.complete` — **a member that gets its signature is queued**, and nothing else changes.
-/

namespace ClassAtlas

/-- The key of a linked code unit: the name of its class, its name and its descriptor. -/
def Atlas.unitKey (a : Atlas) (m : MemberId) : UnitKey :=
  ⟨(a.cls (a.member m).owner).name, (a.member m).name, (a.member m).descriptor⟩

/-- Whether a member is a code unit with a return type.  This is the last part of a signature that
is linked, so a code unit has none of it or all. -/
def Member.isSigned (m : Member) : Bool :=
  (m.codeUnit?.bind (·.rawReturns)).isSome

lemma Member.isField_of_isSigned {m : Member} (h : m.isSigned = true) : m.isField = false := by
  rcases hbody : m.body with ⟨type, raw⟩ | ⟨kind, unit⟩
  · simp [isSigned, codeUnit?, hbody] at h
  · simp [isField, codeKind?, hbody]

namespace Linker

variable {F : Prop} {s t u : Linker}

/-- The relation of two states that says that what held of the first holds of the second. -/
def Keeping (P : Linker → Prop) (t u : Linker) : Prop :=
  P t → P u

instance (P : Linker → Prop) : IsPreorder Linker (Keeping P) where
  refl _ h := h
  trans _ _ _ h h' ht := h' (h ht)

/-! ## What stays -/

/-- What was linked before stays as it is: supertypes, scopes, variables, members and accesses. -/
structure Preserves (s t : Linker) : Prop where
  steps : Steps s t
  supertypes : ∀ c, (t.atlas.cls c).supertypes = (s.atlas.cls c).supertypes
  enclosingClass : ∀ c, (t.atlas.cls c).enclosingClass = (s.atlas.cls c).enclosingClass
  typeParameters : ∀ c, (t.atlas.cls c).typeParameters = (s.atlas.cls c).typeParameters
  typeVar : ∀ v : VarId, v.index < s.atlas.typeVars.size → t.atlas.typeVar v = s.atlas.typeVar v
  member : ∀ m : MemberId, m.index < s.atlas.members.size → t.atlas.member m = s.atlas.member m
  accesses : t.atlas.accesses = s.atlas.accesses

lemma Preserves.trans (h : Preserves s t) (h' : Preserves t u) : Preserves s u where
  steps := trans_of Steps h.steps h'.steps
  supertypes c := (h'.supertypes c).trans (h.supertypes c)
  enclosingClass c := (h'.enclosingClass c).trans (h.enclosingClass c)
  typeParameters c := (h'.typeParameters c).trans (h.typeParameters c)
  typeVar v hv := (h'.typeVar v (hv.trans_le h.steps.frame.typeVarsSize)).trans (h.typeVar v hv)
  member m hm := (h'.member m (hm.trans_le h.steps.frame.membersSize)).trans (h.member m hm)
  accesses := h'.accesses.trans h.accesses

lemma Grows.preserves (h : Grows s t) : Preserves s t :=
  ⟨h.steps, h.atlas.supertypes, h.atlas.enclosingClass, h.atlas.typeParameters, h.atlas.typeVar,
    fun m _ => h.atlas.member m, h.atlas.accesses⟩

/-- What types correspond to in a scope stays, if the code unit of the scope is there already. -/
lemma Preserves.keeps (h : Preserves t u) {scope : Scope}
    (hunit : ∀ m, scope.codeUnit = some m → m.index < t.atlas.members.size) :
    scope.Keeps t u where
  same := ⟨h.steps.frame.classesSize, h.enclosingClass, h.typeParameters,
    fun m hm => by rw [h.member m (hunit m hm)], h.steps.frame.variableName⟩
  names := h.steps.frame.names
  undeclared := h.steps.frame.undeclared
  className _ hc := h.steps.frame.className hc
  typeVarsSize := h.steps.frame.typeVarsSize
  typeVar := h.typeVar

lemma Preserves.same (h : Preserves t u) (c : ClassId) :
    Scope.Same { cls := c } t.atlas u.atlas :=
  (h.keeps fun _ hm => by cases hm).same

/-- The scope of a class stays as it is in the phase that follows. -/
lemma ClassScope.preserves {c : ClassId} {p : Phase} (h : ClassScope t c) (ht : t.WF)
    (hc : c.index < t.atlas.classes.size) (htu : Preserves { t with phase := p } u) :
    ClassScope u c :=
  h.of_same ht hc ((Frame.withPhase t p).trans htu.steps.frame) (htu.same c)
    fun v hv => htu.typeVar v (ht.closed.classParameters c v hv)

lemma Inherited.preserves {c : ClassId} {p : Phase} (h : Inherited t c) (ht : t.WF)
    (hc : c.index < t.atlas.classes.size) (htu : Preserves { t with phase := p } u) :
    Inherited u c := by
  have hkeeps : Scope.Keeps { cls := c } { t with phase := p } u :=
    htu.keeps fun _ hm => by cases hm
  refine h.keeps ht hc ((Frame.withPhase t p).trans htu.steps.frame) ?_ (htu.supertypes c)
  exact ⟨hkeeps.same, hkeeps.names, hkeeps.undeclared, hkeeps.className, hkeeps.typeVarsSize,
    hkeeps.typeVar⟩

/-- A code unit is added to the queue. -/
lemma Edit.queue {m : MemberId} (hunit : (t.atlas.member m).isField = false) (key : UnitKey) :
    Edit t { t with pending := t.pending ++ [(m, key)] } := by
  refine .pending _ fun entry hmem => ?_
  rcases List.mem_append.mp hmem with hmem | hmem
  · exact Or.inl hmem
  · rw [List.mem_singleton.mp hmem]
    exact Or.inr hunit

/-- Types go on corresponding while a member keeps its type parameters, whatever else of it
changes. -/
lemma Scope.keeps_modifyMember (scope : Scope) {id : MemberId} {change : Member → Member}
    {entries : List (MemberId × UnitKey)}
    (h : (change (t.atlas.member id)).typeParameters = (t.atlas.member id).typeParameters) :
    scope.Keeps t { t with atlas := t.atlas.modifyMember id change, pending := entries } where
  same := by
    refine ⟨le_rfl, fun _ => rfl, fun _ => rfl, fun m _ => ?_, fun _ _ => rfl⟩
    rw [Atlas.member_modifyMember]
    split_ifs with hm
    · rw [hm.1]
      exact h
    · rfl
  names _ _ h := h
  undeclared := List.Subset.refl _
  className _ _ := rfl
  typeVarsSize := le_rfl
  typeVar _ _ := rfl

/-! ## Members under way -/

/-- The entry of a code unit in the queue: it has its signature, stands under its own key and has no
accesses yet. -/
structure Queued (t : Linker) (entry : MemberId × UnitKey) : Prop where
  isSigned : (t.atlas.member entry.1).isSigned = true
  accesses : (t.atlas.member entry.1).accesses = []
  owner : (t.atlas.member entry.1).owner.index < t.atlas.classes.size
  key : entry.2 = t.atlas.unitKey entry.1

/-- An entry is the same as long as the code unit and the names of classes stay. -/
lemma Queued.of_member {entry : MemberId × UnitKey} (h : Queued t entry) (hframe : Frame t u)
    (hmember : u.atlas.member entry.1 = t.atlas.member entry.1) : Queued u entry := by
  refine ⟨?_, ?_, ?_, ?_⟩
  · rw [hmember]
    exact h.isSigned
  · rw [hmember]
    exact h.accesses
  · rw [hmember]
    exact h.owner.trans_le hframe.classesSize
  · rw [h.key, Atlas.unitKey, Atlas.unitKey, hmember, hframe.className h.owner]

/-- Entries are in the order in which their members were added. -/
def InOrder (entries : List (MemberId × UnitKey)) : Prop :=
  entries.Pairwise fun e e' => e.1.index < e'.1.index

lemma InOrder.nodup {entries : List (MemberId × UnitKey)} (h : InOrder entries) :
    (entries.map Prod.fst).Nodup :=
  List.pairwise_map.mpr (h.imp fun hlt heq => hlt.ne (congrArg MemberId.index heq))

/-- What was queued between two states: the code units that were added and have a signature, in the
order in which they were added. -/
structure Queues (s t : Linker) (new : List (MemberId × UnitKey)) : Prop where
  pending : t.pending = s.pending ++ new
  inOrder : InOrder new
  range : ∀ entry ∈ new,
    s.atlas.members.size ≤ entry.1.index ∧ entry.1.index < t.atlas.members.size
  entry : ∀ entry ∈ new, Queued t entry
  signed : ∀ m : MemberId, s.atlas.members.size ≤ m.index → (t.atlas.member m).isSigned = true →
    m ∈ new.map Prod.fst

/-- A member that is no field is there, and so is one with a signature. -/
lemma lt_of_isSigned {a : Atlas} {m : MemberId} (h : (a.member m).isSigned = true) :
    m.index < a.members.size :=
  lt_of_not_isField (Member.isField_of_isSigned h)

/-- Nothing is queued while no member is added that has a signature. -/
lemma queues_nil (hpending : t.pending = s.pending)
    (hsigned : ∀ m : MemberId, s.atlas.members.size ≤ m.index → m.index < t.atlas.members.size →
      (t.atlas.member m).isSigned = false) : Queues s t [] where
  pending := hpending.trans (List.append_nil _).symm
  inOrder := List.Pairwise.nil
  range _ h := by cases h
  entry _ h := by cases h
  signed m hm h := by
    rw [hsigned m hm (lt_of_isSigned h)] at h
    cases h

lemma Queues.trans {new new' : List (MemberId × UnitKey)} (h : Queues s t new)
    (h' : Queues t u new') (hst : Preserves s t) (htu : Preserves t u) :
    Queues s u (new ++ new') where
  pending := by rw [h'.pending, h.pending, List.append_assoc]
  inOrder := by
    refine List.pairwise_append.mpr ⟨h.inOrder, h'.inOrder, fun e he e' he' => ?_⟩
    exact (h.range e he).2.trans_le (h'.range e' he').1
  range entry hmem := by
    rcases List.mem_append.mp hmem with hmem | hmem
    · obtain ⟨hnew, hlt⟩ := h.range entry hmem
      exact ⟨hnew, hlt.trans_le htu.steps.frame.membersSize⟩
    · obtain ⟨hnew, hlt⟩ := h'.range entry hmem
      exact ⟨hst.steps.frame.membersSize.trans hnew, hlt⟩
  entry entry hmem := by
    rcases List.mem_append.mp hmem with hmem | hmem
    · exact (h.entry entry hmem).of_member htu.steps.frame (htu.member _ (h.range entry hmem).2)
    · exact h'.entry entry hmem
  signed m hm hsigned := by
    rw [List.map_append, List.mem_append]
    rcases lt_or_ge m.index t.atlas.members.size with hlt | hge
    · rw [htu.member m hlt] at hsigned
      exact Or.inl (h.signed m hm hsigned)
    · exact Or.inr (h'.signed m hge hsigned)

/-- Members and annotations were added to classes of `A`, and the code units among them queued. -/
structure Adds (A : Set ClassId) (s t : Linker) : Prop extends Preserves s t where
  members : ∀ c ∉ A, (t.atlas.cls c).members = (s.atlas.cls c).members
  annotations : ∀ c ∉ A, (t.atlas.cls c).annotations = (s.atlas.cls c).annotations
  queued : ∃ new, Queues s t new

lemma Grows.adds {A : Set ClassId} (h : Grows s t) : Adds A s t := by
  refine ⟨h.preserves, fun c _ => h.atlas.classMembers c, fun c _ => h.atlas.annotations c, [],
    queues_nil h.pending fun m hm hlt => ?_⟩
  rw [h.atlas.members] at hlt
  exact absurd hlt (not_lt.mpr hm)

lemma Adds.trans {A : Set ClassId} (h : Adds A s t) (h' : Adds A t u) : Adds A s u := by
  obtain ⟨new, hnew⟩ := h.queued
  obtain ⟨new', hnew'⟩ := h'.queued
  exact ⟨h.toPreserves.trans h'.toPreserves,
    fun c hc => (h'.members c hc).trans (h.members c hc),
    fun c hc => (h'.annotations c hc).trans (h.annotations c hc),
    new ++ new', hnew.trans hnew' h.toPreserves h'.toPreserves⟩

instance (A : Set ClassId) : IsPreorder Linker (Adds A) where
  refl s := (Grows.refl s).adds
  trans _ _ _ := Adds.trans

lemma Adds.mono (A B : Set ClassId) (s t : Linker) (hAB : A ⊆ B) (h : Adds A s t) : Adds B s t :=
  ⟨h.toPreserves, fun c hc => h.members c fun hA => hc (hAB hA),
    fun c hc => h.annotations c fun hA => hc (hAB hA), h.queued⟩

/-- What a member has when it is added: a place, but nothing that depends on it. -/
structure Draft (owner : ClassId) (id : MemberId) (m : Member) : Prop where
  id : m.id = id
  owner : m.owner = owner
  typeParameters : m.typeParameters = []
  parameters : m.parameters = []
  accesses : m.accesses = []
  annotations : m.annotations = []
  isConstructor : m.isConstructor = false
  isSigned : m.isSigned = false

/-- One member was added to a class after the state `s`, and it may still change.  It has no
signature yet. -/
structure Building (s : Linker) (owner : ClassId) (t : Linker) : Prop extends Preserves s t where
  size : t.atlas.members.size = s.atlas.members.size + 1
  own : (t.atlas.cls owner).members =
    (s.atlas.cls owner).members ++ [⟨s.atlas.members.size⟩]
  others : ∀ c ≠ owner, (t.atlas.cls c).members = (s.atlas.cls c).members
  annotations : ∀ c, (t.atlas.cls c).annotations = (s.atlas.cls c).annotations
  pending : t.pending = s.pending
  isSigned : (t.atlas.member ⟨s.atlas.members.size⟩).isSigned = false

namespace Building

variable {owner : ClassId}

/-- There is one new member only. -/
lemma eq_of_le (h : Building s owner t) {m : MemberId} (hm : s.atlas.members.size ≤ m.index)
    (hlt : m.index < t.atlas.members.size) : m = ⟨s.atlas.members.size⟩ := by
  rw [h.size] at hlt
  exact congrArg MemberId.mk (Nat.le_antisymm (Nat.lt_succ_iff.mp hlt) hm)

lemma adds (h : Building s owner t) : Adds {owner} s t := by
  refine ⟨h.toPreserves, h.others, fun c _ => h.annotations c, [],
    queues_nil h.pending fun m hm hlt => ?_⟩
  rw [h.eq_of_le hm hlt]
  exact h.isSigned

/-- The member that is being built. -/
lemma lt (h : Building s owner t) : s.atlas.members.size < t.atlas.members.size := by
  rw [h.size]
  exact Nat.lt_succ_self _

lemma addMember (make : MemberId → Member) (howner : (s.atlas.cls owner).imported = true)
    (hdraft : ∀ id, Draft owner id (make id))
    (hbody : ∀ id, (make id).body.Within s.atlas.extent) :
    Building s owner { s with atlas := (s.atlas.addMember make).2 } := by
  have hedit : Edit s { s with atlas := (s.atlas.addMember make).2 } := by
    refine .addMember make (fun id => (hdraft id).owner.symm ▸ howner)
      (fun id => (hdraft id).typeParameters) (fun id => (hdraft id).isConstructor)
      (fun id => (hdraft id).id) (fun id => ⟨?_, ?_, hbody id⟩) (fun id => (hdraft id).accesses)
      fun id => ?_
    · rw [(hdraft id).owner]
      exact Atlas.lt_of_imported howner
    · simp [(hdraft id).annotations]
    · simp [Member.Numbered, (hdraft id).parameters]
  refine ⟨⟨hedit.steps, s.atlas.keep_addMember _ (fun _ _ => rfl) make,
    s.atlas.keep_addMember _ (fun _ _ => rfl) make, s.atlas.keep_addMember _ (fun _ _ => rfl) make,
    fun _ _ => rfl, fun m hm => ?_, rfl⟩, by simp [Atlas.addMember, Atlas.modifyClass], ?_,
    fun c hc => ?_, s.atlas.keep_addMember _ (fun _ _ => rfl) make, rfl, ?_⟩
  · rw [Atlas.member_addMember, if_neg hm.ne]
  · rw [Atlas.cls_addMember, if_pos ⟨(hdraft _).owner.symm, Atlas.lt_of_imported howner⟩]
  · rw [Atlas.cls_addMember, if_neg fun h => hc (h.1.trans (hdraft _).owner)]
  · rw [Atlas.member_addMember, if_pos rfl]
    exact (hdraft _).isSigned

lemma grows (h : Building s owner t) (htu : Grows t u) : Building s owner u where
  toPreserves := h.toPreserves.trans htu.preserves
  size := by rw [htu.atlas.members, h.size]
  own := (htu.atlas.classMembers owner).trans h.own
  others c hc := (htu.atlas.classMembers c).trans (h.others c hc)
  annotations c := (htu.atlas.annotations c).trans (h.annotations c)
  pending := htu.pending.trans h.pending
  isSigned := by
    rw [htu.atlas.member]
    exact h.isSigned

/-- Bounds of new variables are linked. -/
lemma bounds {A : Set VarId} (h : Building s owner t) (htu : Bounds A t u)
    (hA : ∀ v ∈ A, s.atlas.typeVars.size ≤ v.index) : Building s owner u where
  steps := trans_of Steps h.steps htu.steps
  supertypes c := (htu.supertypes c).trans (h.supertypes c)
  enclosingClass c := (htu.enclosingClass c).trans (h.enclosingClass c)
  typeParameters c := (htu.typeParameters c).trans (h.typeParameters c)
  typeVar v hv := (htu.typeVar v (hv.trans_le h.steps.frame.typeVarsSize)
    fun hmem => absurd hv (not_lt.mpr (hA v hmem))).trans (h.typeVar v hv)
  member m hm := (htu.member m).trans (h.member m hm)
  accesses := htu.accesses.trans h.accesses
  size := by rw [htu.memberTable, h.size]
  own := (htu.members owner).trans h.own
  others c hc := (htu.members c).trans (h.others c hc)
  annotations c := (htu.annotations c).trans (h.annotations c)
  pending := htu.pending.trans h.pending
  isSigned := by
    rw [htu.member]
    exact h.isSigned

/-- All but the new member stays as it is when that changes. -/
lemma preserves_modifyMember (h : Building s owner t) {change : Member → Member}
    (hedit : Edit t { t with atlas := t.atlas.modifyMember ⟨s.atlas.members.size⟩ change }) :
    Preserves s { t with atlas := t.atlas.modifyMember ⟨s.atlas.members.size⟩ change } where
  steps := trans_of Steps h.steps hedit.steps
  supertypes := h.supertypes
  enclosingClass := h.enclosingClass
  typeParameters := h.typeParameters
  typeVar := h.typeVar
  member m hm := by
    rw [Atlas.member_modifyMember, if_neg fun heq => hm.ne (congrArg MemberId.index heq.1)]
    exact h.member m hm
  accesses := h.accesses

lemma member_modifyMember (h : Building s owner t) (change : Member → Member) :
    (t.atlas.modifyMember ⟨s.atlas.members.size⟩ change).member ⟨s.atlas.members.size⟩ =
      change (t.atlas.member ⟨s.atlas.members.size⟩) := by
  rw [Atlas.member_modifyMember, if_pos ⟨rfl, h.lt⟩]

/-- The new member changes. -/
lemma modifyMember (h : Building s owner t) (change : Member → Member)
    (hedit : Edit t { t with atlas := t.atlas.modifyMember ⟨s.atlas.members.size⟩ change })
    (hsigned : (change (t.atlas.member ⟨s.atlas.members.size⟩)).isSigned = false) :
    Building s owner { t with atlas := t.atlas.modifyMember ⟨s.atlas.members.size⟩ change } where
  toPreserves := h.preserves_modifyMember hedit
  size := (Atlas.size_modifyMember ..).trans h.size
  own := h.own
  others := h.others
  annotations := h.annotations
  pending := h.pending
  isSigned := by
    rw [h.member_modifyMember]
    exact hsigned

/-- The new member gets its signature and is queued. -/
lemma complete (h : Building s owner t) {change : Member → Member} {key : UnitKey}
    (hedit : Edit t { t with atlas := t.atlas.modifyMember ⟨s.atlas.members.size⟩ change })
    (hqueue : Edit { t with atlas := t.atlas.modifyMember ⟨s.atlas.members.size⟩ change }
      { t with
        atlas := t.atlas.modifyMember ⟨s.atlas.members.size⟩ change
        pending := t.pending ++ [(⟨s.atlas.members.size⟩, key)] })
    (hentry : Queued { t with atlas := t.atlas.modifyMember ⟨s.atlas.members.size⟩ change }
      (⟨s.atlas.members.size⟩, key)) :
    Adds {owner} s { t with
      atlas := t.atlas.modifyMember ⟨s.atlas.members.size⟩ change
      pending := t.pending ++ [(⟨s.atlas.members.size⟩, key)] } := by
  have hold := h.preserves_modifyMember hedit
  have hsize := Atlas.size_modifyMember t.atlas ⟨s.atlas.members.size⟩ change
  refine ⟨⟨trans_of Steps hold.steps hqueue.steps, hold.supertypes, hold.enclosingClass,
    hold.typeParameters, hold.typeVar, hold.member, hold.accesses⟩, h.others,
    fun c _ => h.annotations c, [(⟨s.atlas.members.size⟩, key)], by rw [h.pending],
    List.pairwise_singleton _ _, fun entry hmem => ?_, fun entry hmem => ?_, fun m hm hsigned => ?_⟩
  · rw [List.mem_singleton.mp hmem]
    exact ⟨le_rfl, hsize.symm ▸ h.lt⟩
  · rw [List.mem_singleton.mp hmem]
    exact ⟨hentry.isSigned, hentry.accesses, hentry.owner, hentry.key⟩
  · have hlt : m.index < t.atlas.members.size := hsize ▸ lt_of_isSigned hsigned
    rw [h.eq_of_le hm hlt]
    exact List.mem_singleton_self _

end Building

/-- A member is added, and what follows may change it. -/
lemma moves_addMember_bind {α : Type} {owner : ClassId} {make : Atlas → MemberId → Member}
    {f : MemberId → LinkM α} {Q : α → Linker → Prop}
    (howner : (s.atlas.cls owner).imported = true)
    (hdraft : ∀ id, Draft owner id (make s.atlas id))
    (hbody : ∀ id, (make s.atlas id).body.Within s.atlas.extent)
    (hf : ∀ t, Building s owner t →
      t.atlas.member ⟨s.atlas.members.size⟩ = make s.atlas ⟨s.atlas.members.size⟩ →
      Moves (Keeping (Adds {owner} s)) F t (f ⟨s.atlas.members.size⟩) Q) :
    Moves (Adds {owner}) F s (addToAtlas (fun a => a.addMember (make a)) >>= f) Q := by
  have hbuild : Building s owner { s with atlas := (s.atlas.addMember (make s.atlas)).2 } :=
    Building.addMember _ howner hdraft hbody
  have hmoves := hf _ hbuild ((Atlas.member_addMember ..).trans (if_pos rfl))
  exact hmoves.from_state rfl fun _ hu => hu hbuild.adds

/-- While a member is being built, the atlas may grow. -/
lemma Building.moves {α : Type} {owner : ClassId} {x : LinkM α} {Q : α → Linker → Prop}
    (h : Building s owner t) (hx : Moves Grows F t x Q) :
    Moves (Keeping (Adds {owner} s)) F t x fun answer u => Grows t u ∧ Q answer u :=
  (hx.mono fun _ _ => And.intro).along fun _ htu _ => (h.grows htu).adds

/-- The member that is being built changes, and something follows. -/
lemma Building.moves_modifyMember_bind {α : Type} {owner : ClassId}
    {change : Atlas → Member → Member} {f : Unit → LinkM α} {Q : α → Linker → Prop}
    (h : Building s owner t)
    (hedit : Edit t
      { t with atlas := t.atlas.modifyMember ⟨s.atlas.members.size⟩ (change t.atlas) })
    (hsigned : (change t.atlas (t.atlas.member ⟨s.atlas.members.size⟩)).isSigned = false)
    (hf : ∀ u,
      u = { t with atlas := t.atlas.modifyMember ⟨s.atlas.members.size⟩ (change t.atlas) } →
      Edit t u → Building s owner u → u.atlas.member ⟨s.atlas.members.size⟩ =
        change t.atlas (t.atlas.member ⟨s.atlas.members.size⟩) →
      Moves (Keeping (Adds {owner} s)) F u (f ()) Q) :
    Moves (Keeping (Adds {owner} s)) F t
      (modifyAtlas (fun a => a.modifyMember ⟨s.atlas.members.size⟩ (change a)) >>= f) Q := by
  have hbuild := h.modifyMember _ hedit hsigned
  refine (moves_modifyAtlas (Q := fun _ u => u = _) (fun _ => hbuild.adds) rfl).bind
    fun _ u _ hu => hf u hu (hu ▸ hedit) (hu ▸ hbuild) ?_
  rw [hu]
  exact h.member_modifyMember _

/-- A class has one more member, of which something holds. -/
def Gains (owner : ClassId) (P : MemberId → Linker → Prop) (s t : Linker) : Prop :=
  ∃ m : MemberId, (t.atlas.cls owner).members = (s.atlas.cls owner).members ++ [m] ∧ P m t

end Linker

end ClassAtlas
