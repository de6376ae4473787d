import ClassAtlas.Atlas.Members
import ClassAtlas.Proofs.Distinct
import ClassAtlas.Proofs.Linker.Members

/-!
# Linking accesses

* `Gathers A` — nothing was set but the accesses of the code units of `A`.
* `Completes A` — moreover, accesses are listed by the code units they start from.
* `Represents` — an access of the atlas has the kind, the line and the target of a record.
* `AccessesLinked` — a code unit has the accesses on record for a key.
* `moves_accessesBody` — **queued code units get the accesses on record for their keys**, one after
  the other.
* `leads_accessesBody` — what the single steps keep, the phase keeps.
-/

namespace ClassAtlas

namespace Member

/-- A member that is no field has a code unit. -/
lemma exists_code {m : Member} (h : m.isField = false) : ∃ kind unit, m.body = .code kind unit := by
  rcases hbody : m.body with ⟨type, raw⟩ | ⟨kind, unit⟩
  · simp [isField, codeKind?, hbody] at h
  · exact ⟨kind, unit, rfl⟩

/-- The member with other accesses; a field has none. -/
def withAccesses (m : Member) (ids : List AccessId) : Member :=
  m.modifyCodeUnit fun c => { c with accesses := ids }

variable {m : Member} {type : TypeRef} {raw : ClassId} {kind : CodeKind} {unit : CodeUnit}

lemma withAccesses_of_field (h : m.body = .field type raw) (ids : List AccessId) :
    m.withAccesses ids = m := by
  rw [withAccesses, modifyCodeUnit, h]

lemma withAccesses_of_code (h : m.body = .code kind unit) (ids : List AccessId) :
    m.withAccesses ids = { m with body := .code kind { unit with accesses := ids } } := by
  rw [withAccesses, modifyCodeUnit, h]

lemma accesses_of_field (h : m.body = .field type raw) : m.accesses = [] := by
  rw [accesses, codeUnit?, h]
  rfl

lemma accesses_of_code (h : m.body = .code kind unit) : m.accesses = unit.accesses := by
  rw [accesses, codeUnit?, h]
  rfl

lemma isField_of_code (h : m.body = .code kind unit) : m.isField = false := by
  rw [isField, codeKind?, h]
  rfl

/-- Only code units have accesses. -/
lemma isField_of_mem_accesses {i : AccessId} (h : i ∈ m.accesses) : m.isField = false := by
  rcases hbody : m.body with ⟨type, raw⟩ | ⟨kind, unit⟩
  · rw [accesses_of_field hbody] at h
    cases h
  · exact isField_of_code hbody

end Member

/-- What a code unit does by an access. -/
def Access.use (x : Access) : Linker.Use :=
  (x.kind, x.target, x.line)

namespace Linker

variable {F : Prop} {s t u : Linker}

/-! ## What stays -/

/-- Two forms of a member that differ in accesses at most. -/
def SameUnit (m m' : Member) : Prop :=
  ∃ ids, m' = m.withAccesses ids

namespace SameUnit

variable {m m' m'' : Member} {kind : CodeKind} {unit : CodeUnit} {type : TypeRef} {raw : ClassId}

/-- A code unit gets other accesses at most. -/
lemma body (h : SameUnit m m') (hbody : m.body = .code kind unit) :
    m'.body = .code kind { unit with accesses := m'.accesses } := by
  obtain ⟨ids, rfl⟩ := h
  rw [Member.withAccesses_of_code hbody]
  rfl

/-- A field stays as it is. -/
lemma eq_of_field (h : SameUnit m m') (hbody : m.body = .field type raw) : m' = m := by
  obtain ⟨ids, rfl⟩ := h
  exact Member.withAccesses_of_field hbody ids

/-- Whatever does not depend on accesses stays. -/
lemma keep {β : Type} (field : Member → β) (h : SameUnit m m')
    (hfield : ∀ m kind unit ids, m.body = .code kind unit →
      field { m with body := .code kind { unit with accesses := ids } } = field m) :
    field m' = field m := by
  obtain ⟨ids, rfl⟩ := h
  rcases hbody : m.body with ⟨type, raw⟩ | ⟨kind, unit⟩
  · rw [Member.withAccesses_of_field hbody]
  · rw [Member.withAccesses_of_code hbody]
    exact hfield m kind unit ids hbody

lemma name (h : SameUnit m m') : m'.name = m.name :=
  h.keep Member.name fun _ _ _ _ _ => rfl

lemma modifiers (h : SameUnit m m') : m'.modifiers = m.modifiers :=
  h.keep Member.modifiers fun _ _ _ _ _ => rfl

lemma descriptor (h : SameUnit m m') : m'.descriptor = m.descriptor :=
  h.keep Member.descriptor fun _ _ _ _ _ => rfl

lemma fullName (h : SameUnit m m') : m'.fullName = m.fullName :=
  h.keep Member.fullName fun _ _ _ _ _ => rfl

lemma annotations (h : SameUnit m m') : m'.annotations = m.annotations :=
  h.keep Member.annotations fun _ _ _ _ _ => rfl

lemma codeKind (h : SameUnit m m') : m'.codeKind? = m.codeKind? :=
  h.keep Member.codeKind? fun m _ _ _ hbody => by simp [Member.codeKind?, hbody]

lemma parameters (h : SameUnit m m') : m'.parameters = m.parameters :=
  h.keep Member.parameters fun m _ _ _ hbody => by
    simp [Member.parameters, Member.codeUnit?, hbody]

lemma typeParameters (h : SameUnit m m') : m'.typeParameters = m.typeParameters :=
  h.keep Member.typeParameters fun m _ _ _ hbody => by
    simp [Member.typeParameters, Member.codeUnit?, hbody]

lemma sameMember (h : SameUnit m m') : SameMember m m' where
  id := h.keep Member.id fun _ _ _ _ _ => rfl
  owner := h.keep Member.owner fun _ _ _ _ _ => rfl
  name := h.name
  modifiers := h.modifiers
  isField := by rw [Member.isField, Member.isField, h.codeKind]

lemma refl (m : Member) : SameUnit m m := by
  refine ⟨m.accesses, ?_⟩
  rcases hbody : m.body with ⟨type, raw⟩ | ⟨kind, unit⟩
  · rw [Member.withAccesses_of_field hbody]
  · rw [Member.withAccesses_of_code hbody, Member.accesses_of_code hbody, ← hbody]

lemma trans (h : SameUnit m m') (h' : SameUnit m' m'') : SameUnit m m'' := by
  obtain ⟨ids, rfl⟩ := h'
  refine ⟨ids, ?_⟩
  rcases hbody : m.body with ⟨type, raw⟩ | ⟨kind, unit⟩
  · rw [h.eq_of_field hbody]
  · obtain ⟨ids', rfl⟩ := h
    simp only [Member.withAccesses_of_code hbody]
    rfl

end SameUnit

/-- Nothing was set but the accesses of the code units of `A`. -/
structure Gathers (A : Set MemberId) (s t : Linker) : Prop where
  steps : Steps s t
  content : ∀ c, (t.atlas.cls c).content = (s.atlas.cls c).content
  typeVar : ∀ v : VarId, v.index < s.atlas.typeVars.size → t.atlas.typeVar v = s.atlas.typeVar v
  size : t.atlas.members.size = s.atlas.members.size
  unit : ∀ m, SameUnit (s.atlas.member m) (t.atlas.member m)
  member : ∀ m ∉ A, t.atlas.member m = s.atlas.member m
  access : ∀ i : AccessId, i.index < s.atlas.accesses.size →
    t.atlas.access i = s.atlas.access i

instance (A : Set MemberId) : IsPreorder Linker (Gathers A) where
  refl _ := ⟨refl_of Steps _, fun _ => rfl, fun _ _ => rfl, rfl, fun _ => SameUnit.refl _,
    fun _ _ => rfl, fun _ _ => rfl⟩
  trans _ _ _ h h' :=
    ⟨trans_of Steps h.steps h'.steps, fun c => (h'.content c).trans (h.content c),
      fun v hv => (h'.typeVar v (hv.trans_le h.steps.frame.typeVarsSize)).trans (h.typeVar v hv),
      h'.size.trans h.size, fun m => (h.unit m).trans (h'.unit m),
      fun m hm => (h'.member m hm).trans (h.member m hm),
      fun i hi => (h'.access i (hi.trans_le h.steps.frame.accessesSize)).trans (h.access i hi)⟩

lemma Gathers.mono (A B : Set MemberId) (s t : Linker) (hAB : A ⊆ B) (h : Gathers A s t) :
    Gathers B s t :=
  ⟨h.steps, h.content, h.typeVar, h.size, h.unit, fun m hm => h.member m fun hA => hm (hAB hA),
    h.access⟩

lemma Gathers.members {A : Set MemberId} (h : Gathers A s t) (c : ClassId) :
    (t.atlas.cls c).members = (s.atlas.cls c).members :=
  congrArg (·.2.2.2.2.1) (h.content c)

/-- Types go on corresponding while accesses are linked. -/
lemma Gathers.keeps {A : Set MemberId} {p : Phase} (h : Gathers A { t with phase := p } u)
    (scope : Scope) : scope.Keeps t u where
  same := {
    classesSize := h.steps.frame.classesSize
    enclosingClass := fun c => congrArg (·.2.2.2.1) (h.content c)
    classParameters := fun c => congrArg (·.2.2.1) (h.content c)
    unitParameters := fun m _ => (h.unit m).typeParameters
    variableName := h.steps.frame.variableName }
  names := h.steps.frame.names
  undeclared := h.steps.frame.undeclared
  className _ hc := h.steps.frame.className hc
  typeVarsSize := h.steps.frame.typeVarsSize
  typeVar := h.typeVar

lemma Grows.gathers {A : Set MemberId} (h : Grows s t) : Gathers A s t where
  steps := h.steps
  content := h.atlas.content
  typeVar := h.atlas.typeVar
  size := by rw [h.atlas.members]
  unit m := by rw [h.atlas.member]; exact SameUnit.refl _
  member m _ := h.atlas.member m
  access i _ := by rw [Atlas.access, Atlas.access, h.atlas.accesses]

/-- Every access is listed by the code unit it starts from. -/
def ListsAccesses (s : Linker) : Prop :=
  ∀ i : AccessId, i.index < s.atlas.accesses.size →
    i ∈ (s.atlas.member (s.atlas.access i).origin).accesses

/-- Nothing was set but the accesses of the code units of `A`, and those are listed that have to
be. -/
structure Completes (A : Set MemberId) (s t : Linker) : Prop extends Gathers A s t where
  listed : ListsAccesses s → ListsAccesses t

instance (A : Set MemberId) : IsPreorder Linker (Completes A) where
  refl _ := ⟨refl_of (Gathers A) _, id⟩
  trans _ _ _ h h' :=
    ⟨trans_of (Gathers A) h.toGathers h'.toGathers, fun hs => h'.listed (h.listed hs)⟩

lemma Completes.mono (A B : Set MemberId) (s t : Linker) (hAB : A ⊆ B) (h : Completes A s t) :
    Completes B s t :=
  ⟨Gathers.mono A B s t hAB h.toGathers, h.listed⟩

/-- Accesses stay listed while neither they nor the members that are there change. -/
lemma ListsAccesses.of_members (hs : ListsAccesses s)
    (haccesses : t.atlas.accesses = s.atlas.accesses)
    (hmember : ∀ m : MemberId, m.index < s.atlas.members.size →
      t.atlas.member m = s.atlas.member m) : ListsAccesses t := by
  intro i hi
  have haccess : t.atlas.access i = s.atlas.access i := by
    rw [Atlas.access, Atlas.access, haccesses]
  have hlisted := hs i (haccesses ▸ hi)
  have horigin := lt_of_not_isField (Member.isField_of_mem_accesses hlisted)
  rw [haccess, hmember _ horigin]
  exact hlisted

lemma Grows.listsAccesses (h : Grows s t) (hs : ListsAccesses s) : ListsAccesses t :=
  hs.of_members h.atlas.accesses fun m _ => h.atlas.member m

lemma Grows.completes {A : Set MemberId} (h : Grows s t) : Completes A s t :=
  ⟨h.gathers, h.listsAccesses⟩

/-- The accesses of a code unit are set. -/
lemma Gathers.setAccesses {m : MemberId} {ids : List AccessId}
    (hids : ∀ i ∈ ids, i.index < t.atlas.accesses.size ∧ (t.atlas.access i).origin = m) :
    Gathers {m} t { t with atlas := t.atlas.modifyMember m fun x => x.withAccesses ids } := by
  have hsame : ∀ x : Member, SameUnit x (x.withAccesses ids) := fun x => ⟨ids, rfl⟩
  have hedit :
      Edit t { t with atlas := t.atlas.modifyMember m fun x => x.withAccesses ids } := by
    refine .member m _ (hsame _).sameMember (fun v hv => Or.inl ?_) (fun hkind => Or.inl ?_)
      (fun hold => ?_) (fun i hi => ?_) fun hnumbered => ?_
    · rwa [(hsame _).typeParameters] at hv
    · rwa [Member.isConstructor, (hsame _).codeKind] at hkind
    · rcases hbody : (t.atlas.member m).body with ⟨type, raw⟩ | ⟨kind, unit⟩
      · rwa [Member.withAccesses_of_field hbody]
      · have hunit : unit.Within t.atlas.extent := by
          have := hold.body
          rwa [hbody] at this
        rw [Member.withAccesses_of_code hbody]
        exact ⟨hold.owner, hold.annotations, { hunit with accesses := fun i hi => (hids i hi).1 }⟩
    · rcases hbody : (t.atlas.member m).body with ⟨type, raw⟩ | ⟨kind, unit⟩
      · rw [Member.withAccesses_of_field hbody] at hi
        exact Or.inl hi
      · rw [Member.withAccesses_of_code hbody] at hi
        exact Or.inr (hids i hi).2
    · rwa [Member.Numbered, (hsame _).parameters]
  refine ⟨hedit.steps, fun _ => rfl, fun _ _ => rfl, Atlas.size_modifyMember .., fun x => ?_,
    fun x hx => ?_, fun _ _ => rfl⟩
  · rw [Atlas.member_modifyMember]
    split_ifs
    · exact hsame _
    · exact SameUnit.refl _
  · rw [Atlas.member_modifyMember, if_neg fun h => hx h.1]

lemma accesses_setAccesses {m : MemberId} (hunit : (t.atlas.member m).isField = false)
    (ids : List AccessId) :
    ((t.atlas.modifyMember m fun x => x.withAccesses ids).member m).accesses = ids := by
  obtain ⟨kind, unit, hbody⟩ := Member.exists_code hunit
  rw [Atlas.member_modifyMember, if_pos ⟨rfl, lt_of_not_isField hunit⟩,
    Member.withAccesses_of_code hbody]
  rfl

lemma accessesFrom_eq (a : Atlas) (m : MemberId) :
    a.accessesFrom m = (a.member m).accesses.map a.access :=
  rfl

/-! ## One code unit -/

/-- An access is of the kind, the line and the full name of the target that a use has. -/
def Realizes (access : Access) (use : Use) : Prop :=
  (access.kind, access.target.fullName, access.line) = (use.1, use.2.1.fullName, use.2.2)

/-- An access has the kind, the line and the full name of the target that a record says. -/
def Represents (t : Linker) (r : Record.Use) (access : Access) : Prop :=
  ∃ use, LinkedUse t r use ∧ Realizes access use

/-- The access of a code unit that a use is linked to. -/
def accessOf (member : MemberId) (originFullName : String) (use : Use) (id : AccessId) :
    Access where
  id := id
  kind := use.1
  origin := member
  originFullName := originFullName
  target := use.2.1
  line := use.2.2

/-- Of several uses with the same kind, name of the target and line, the first. -/
def distinctUses (uses : List Use) : List Use :=
  distinctBy (fun (kind, target, line) => (kind, target.fullName, line)) uses

/-- The accesses of a code unit are those on record for a key, of which those are kept that differ
in kind, name of the target or line. -/
def AccessesLinked (t : Linker) (m : MemberId) (key : UnitKey) : Prop :=
  ∃ uses, List.Forall₂ (LinkedUse t) (t.context.uses key) uses ∧
    List.Forall₂ (fun use (i : AccessId) => i.index < t.atlas.accesses.size ∧
        t.atlas.access i = accessOf m (t.atlas.member m).fullName use i)
      (distinctUses uses) (t.atlas.member m).accesses

namespace AccessesLinked

variable {m : MemberId} {key : UnitKey}

lemma taken (h : AccessesLinked t m key) {i : AccessId} (hi : i ∈ (t.atlas.member m).accesses) :
    i.index < t.atlas.accesses.size := by
  obtain ⟨uses, -, haccesses⟩ := h
  obtain ⟨use, -, hlt, -⟩ := haccesses.exists_left hi
  exact hlt

lemma realizes {i : AccessId} {use : Use} {name : String}
    (h : t.atlas.access i = accessOf m name use i) : Realizes (t.atlas.access i) use := by
  rw [h]
  rfl

/-- An access that realizes the use that is kept represents all with the same kind, name of the
target and line. -/
lemma represented (h : AccessesLinked t m key) {r : Record.Use} (hr : r ∈ t.context.uses key) :
    ∃ i ∈ (t.atlas.member m).accesses, Represents t r (t.atlas.access i) := by
  obtain ⟨uses, huses, haccesses⟩ := h
  obtain ⟨use, huse, hlinked⟩ := huses.exists_right hr
  obtain ⟨kept, hkept, heq⟩ : ∃ kept ∈ distinctUses uses,
      (kept.1, kept.2.1.fullName, kept.2.2) = (use.1, use.2.1.fullName, use.2.2) :=
    exists_mem_distinctBy huse
  obtain ⟨i, hi, -, haccess⟩ := haccesses.exists_right hkept
  exact ⟨i, hi, use, hlinked, (realizes haccess).trans heq⟩

lemma recorded (h : AccessesLinked t m key) {i : AccessId} (hi : i ∈ (t.atlas.member m).accesses) :
    ∃ r ∈ t.context.uses key, Represents t r (t.atlas.access i) := by
  obtain ⟨uses, huses, haccesses⟩ := h
  obtain ⟨use, huse, -, haccess⟩ := haccesses.exists_left hi
  obtain ⟨r, hr, hlinked⟩ := huses.exists_left (mem_of_mem_distinctBy huse)
  exact ⟨r, hr, use, hlinked, realizes haccess⟩

lemma gathers {A : Set MemberId} (h : AccessesLinked t m key) (ht : t.WF) (htu : Gathers A t u)
    (hm : m ∉ A) : AccessesLinked u m key := by
  obtain ⟨uses, huses, haccesses⟩ := h
  have hframe := htu.steps.frame
  refine ⟨uses, ?_, ?_⟩
  · rw [hframe.context]
    exact huses.imp fun _ _ h => h.of_types ht hframe.names hframe.type
  · rw [htu.member m hm]
    refine haccesses.imp fun use i ⟨hlt, haccess⟩ => ⟨hlt.trans_le hframe.accessesSize, ?_⟩
    rw [htu.access i hlt]
    exact haccess

lemma accessesFrom_eq_of_gathers {A : Set MemberId} (h : AccessesLinked t m key)
    (htu : Gathers A t u) (hm : m ∉ A) : u.atlas.accessesFrom m = t.atlas.accessesFrom m := by
  rw [accessesFrom_eq, accessesFrom_eq, htu.member m hm]
  exact List.map_congr_left fun i hi => htu.access i (h.taken hi)

end AccessesLinked

/-- Accesses are added one after the other.  What was added lies behind what was there. -/
lemma moves_mapM_addAccess {uses : List Use} {make : Use → AccessId → Access}
    (hid : ∀ use i, (make use i).id = i)
    (hrecord : ∀ use ∈ uses, ∀ i, ∃ key, ∃ r ∈ s.context.uses key,
      (make use i).kind = r.kind ∧ (make use i).target.kind = r.kind.targetKind ∧
      (make use i).target.name = r.name)
    (hwithin : ∀ use ∈ uses, ∀ i, (make use i).Within s.atlas.extent)
    (hspelled : ∀ use ∈ uses, ∀ i, s.atlas.SpelledTarget (make use i).target) :
    Moves (Gathers ∅) F s
      (uses.mapM fun use => addToAtlas fun a => a.addAccess (make use)) fun ids t =>
        List.Forall₂ (fun use i => i.index < t.atlas.accesses.size ∧
          t.atlas.access i = make use i) uses ids ∧
        (∀ i : AccessId, s.atlas.accesses.size ≤ i.index → i.index < t.atlas.accesses.size →
          i ∈ ids) ∧
        t.atlas.accesses.toList = s.atlas.accesses.toList ++ ids.map t.atlas.access := by
  induction uses generalizing s with
  | nil => exact moves_pure ⟨.nil, fun i hi hi' => absurd hi' (not_lt.mpr hi), by simp⟩
  | cons use uses ih =>
      rw [List.mapM_cons]
      have hedit : Edit s { s with atlas := (s.atlas.addAccess (make use)).2 } :=
        .access _ (hid use) (hrecord use (List.mem_cons_self ..))
          (hwithin use (List.mem_cons_self ..)) (hspelled use (List.mem_cons_self ..))
      have hsize : (s.atlas.addAccess (make use)).2.accesses.size = s.atlas.accesses.size + 1 := by
        simp [Atlas.addAccess]
      have hadd : Moves (Gathers ∅) F s (addToAtlas fun a => a.addAccess (make use)) fun i t =>
          i = ⟨s.atlas.accesses.size⟩ ∧ t.atlas.accesses.size = s.atlas.accesses.size + 1 ∧
            t.atlas.access i = make use i ∧
            t.atlas.accesses.toList = s.atlas.accesses.toList ++ [make use i] := by
        refine moves_addToAtlas ⟨hedit.steps, fun _ => rfl, fun _ _ => rfl, rfl,
          fun _ => SameUnit.refl _, fun _ _ => rfl, fun i hi => ?_⟩ ⟨rfl, hsize, ?_, ?_⟩
        · rw [Atlas.access_addAccess, if_neg hi.ne]
        · exact (Atlas.access_addAccess ..).trans (if_pos rfl)
        · exact Array.toList_push ..
      refine hadd.bind fun i t hst hi => ?_
      obtain ⟨rfl, hsize, hmake, hlist⟩ := hi
      have hframe := hst.steps.frame
      have hrest := ih (s := t)
        (fun use huse => by
          rw [hframe.context]
          exact hrecord use (List.mem_cons_of_mem _ huse))
        (fun use huse i => (hwithin use (List.mem_cons_of_mem _ huse) i).mono hframe.extent)
        fun use huse i => by
          have hthere := hwithin use (List.mem_cons_of_mem _ huse) i
          exact (hspelled use (List.mem_cons_of_mem _ huse) i).of_types hframe.type hthere.owner
            hthere.parameters
      refine hrest.bind fun ids u htu hids => moves_pure ⟨.cons ⟨?_, ?_⟩ hids.1, ?_, ?_⟩
      · exact (hsize ▸ Nat.lt_succ_self _ : _ < t.atlas.accesses.size).trans_le
          htu.steps.frame.accessesSize
      · rw [htu.access _ (hsize ▸ Nat.lt_succ_self _)]
        exact hmake
      · rintro ⟨j⟩ hj hj'
        rcases hj.eq_or_lt with heq | hlt
        · exact List.mem_cons.mpr (Or.inl (congrArg AccessId.mk heq.symm))
        · exact List.mem_cons_of_mem _ (hids.2.1 _ (hsize ▸ hlt) hj')
      · rw [hids.2.2, hlist, List.append_assoc, List.map_cons,
          htu.access _ (hsize ▸ Nat.lt_succ_self _), hmake]
        rfl

/-- Adds the accesses of a code unit. -/
def addAccesses (member : MemberId) (key : UnitKey) (uses : List Use) : LinkM Unit := do
  let originFullName := ((← get).atlas.member member).fullName
  let ids ← (distinctUses uses).mapM fun use => addToAtlas fun a =>
    a.addAccess (accessOf member originFullName use)
  if ((← get).atlas.member member).isField then
    throw (.unknownCodeUnit key.owner key.name key.descriptor)
  modifyAtlas fun a => a.modifyMember member fun m => m.withAccesses ids

lemma linkUnitAccesses_eq (member : MemberId) (key : UnitKey) :
    linkUnitAccesses member key = linkUses key >>= addAccesses member key :=
  rfl

/-- **Once the uses of a code unit are linked, nothing can fail.** -/
lemma moves_addAccesses {m : MemberId} {key : UnitKey} {uses : List Use} (hs : s.WF)
    (hunit : (s.atlas.member m).isField = false)
    (huses : List.Forall₂ (LinkedUse s) (s.context.uses key) uses) :
    Moves (Gathers {m}) False s (addAccesses m key uses) fun _ t => AccessesLinked t m key ∧
      (∀ i : AccessId, s.atlas.accesses.size ≤ i.index → i.index < t.atlas.accesses.size →
        i ∈ (t.atlas.member m).accesses) ∧
      t.atlas.accesses.toList = s.atlas.accesses.toList ++ t.atlas.accessesFrom m := by
  unfold addAccesses
  refine moves_get_bind ?_
  dsimp only
  have hrecord : ∀ use ∈ distinctUses uses, ∃ r ∈ s.context.uses key, LinkedUse s r use :=
    fun use huse => huses.exists_left (mem_of_mem_distinctBy huse)
  refine (moves_mapM_addAccess (fun _ _ => rfl) (fun use huse i => ?_) (fun use huse i => ?_)
    fun use huse i => ?_).bind_along (fun u => Gathers.mono _ _ _ _ (Set.empty_subset _))
    fun ids t hst hids => ?_
  · obtain ⟨r, hr, hlinked⟩ := hrecord use huse
    exact ⟨key, r, hr, hlinked.kind, hlinked.targetKind, hlinked.name⟩
  · obtain ⟨r, hr, hlinked⟩ := hrecord use huse
    exact ⟨lt_of_not_isField hunit, hs.named.inRange hlinked.owner, hlinked.parameter_lt hs,
      hs.named.inRange hlinked.returns⟩
  · obtain ⟨r, hr, hlinked⟩ := hrecord use huse
    exact hlinked.spelled hr
  obtain ⟨hids, hall, hlist⟩ := hids
  refine moves_get_bind ?_
  have hmember := hst.member m (Set.notMem_empty m)
  have hfield : (t.atlas.member m).isField = false := hmember ▸ hunit
  rw [if_neg (by simp [hfield])]
  have horigin : ∀ i ∈ ids, i.index < t.atlas.accesses.size ∧ (t.atlas.access i).origin = m := by
    intro i hi
    obtain ⟨use, -, hlt, haccess⟩ := hids.exists_left hi
    exact ⟨hlt, by rw [haccess]; rfl⟩
  have hset := Gathers.setAccesses horigin
  have hframe := hst.steps.frame.trans hset.steps.frame
  have hlisted := accesses_setAccesses hfield ids
  refine moves_modifyAtlas hset ⟨⟨uses, ?_, ?_⟩, fun i hi hi' => ?_, ?_⟩
  · rw [hframe.context]
    exact huses.imp fun r use h => h.of_types hs hframe.names hframe.type
  · rw [hlisted, (hset.unit m).fullName, hmember]
    exact hids
  · rw [hlisted]
    exact hall i hi hi'
  · rw [accessesFrom_eq, hlisted]
    exact hlist

/-- **The accesses on record for the key of a code unit are linked.** -/
theorem moves_linkUnitAccesses {m : MemberId} (key : UnitKey) (hs : s.WF)
    (hunit : (s.atlas.member m).isField = false) (hnew : (s.atlas.member m).accesses = [])
    (hF : ∀ n, s.context.Mentions n → Registry.readable n.toList = false → F) :
    Moves (Completes {m}) F s (linkUnitAccesses m key) fun _ t => AccessesLinked t m key ∧
      t.atlas.accesses.toList = s.atlas.accesses.toList ++ t.atlas.accessesFrom m := by
  rw [linkUnitAccesses_eq]
  refine (moves_linkUses hs fun r hr n hn => hF n (.use hr hn)).bind_along
    (fun t => Grows.completes) fun uses t hst huses => ?_
  have hunit' : (t.atlas.member m).isField = false := by rwa [hst.atlas.member]
  rw [← hst.context] at huses
  refine (moves_addAccesses (hst.wf hs) hunit' huses).of_sure fun _ u htu hu =>
    ⟨⟨htu, ?_⟩, hu.1, hst.atlas.accesses ▸ hu.2.2⟩
  intro ht i hi
  rcases lt_or_ge i.index t.atlas.accesses.size with hlt | hge
  · rw [htu.access i hlt, htu.member]
    · exact ht i hlt
    · -- the code unit had no accesses before
      intro hmem
      have hlisted := ht i hlt
      rw [Set.mem_singleton_iff.mp hmem, hst.atlas.member, hnew] at hlisted
      cases hlisted
  · have hlisted := hu.2.1 i hge hi
    obtain ⟨uses', -, haccesses⟩ := hu.1
    obtain ⟨use, -, -, haccess⟩ := haccesses.exists_left hlisted
    rw [haccess]
    exact hlisted

/-! ## The phase -/

/-- The accesses of all queued code units are linked, once the phase was checked. -/
def accessesBody : LinkM Unit := do
  let pending ← modifyGet fun s => (s.pending, { s with pending := [] })
  pending.forM fun (member, key) => linkUnitAccesses member key

lemma linkAccesses_eq : linkAccesses = (do advance .members .accesses; accessesBody) :=
  rfl

/-- Code units get their accesses one after the other, so the accesses of one follow those of the
ones before. -/
lemma moves_forM_linkUnitAccesses {entries : List (MemberId × UnitKey)} (hs : s.WF)
    (hnodup : (entries.map Prod.fst).Nodup)
    (hunits : ∀ e ∈ entries, (s.atlas.member e.1).isField = false)
    (hnew : ∀ e ∈ entries, (s.atlas.member e.1).accesses = [])
    (hF : ∀ n, s.context.Mentions n → Registry.readable n.toList = false → F) :
    Moves (Completes {m | m ∈ entries.map Prod.fst}) F s
      (entries.forM fun e => linkUnitAccesses e.1 e.2) fun _ t =>
        (∀ e ∈ entries, AccessesLinked t e.1 e.2) ∧
        t.atlas.accesses.toList =
          s.atlas.accesses.toList ++ entries.flatMap fun e => t.atlas.accessesFrom e.1 := by
  induction entries generalizing s with
  | nil => exact moves_pure ⟨by simp, by simp⟩
  | cons e rest ih =>
      obtain ⟨hfresh, hnodup⟩ := List.nodup_cons.mp hnodup
      have hfirst := moves_linkUnitAccesses e.2 hs (hunits e (List.mem_cons_self ..))
        (hnew e (List.mem_cons_self ..)) hF
      change Moves _ F s (linkUnitAccesses e.1 e.2 >>= fun _ =>
        rest.forM fun e => linkUnitAccesses e.1 e.2) _
      refine hfirst.bind_along (fun t => Completes.mono _ _ _ _ (by simp)) fun _ t hst ht => ?_
      obtain ⟨hlinked, hlist⟩ := ht
      have hwf := hst.steps.wf hs
      have hmember : ∀ e' ∈ rest, t.atlas.member e'.1 = s.atlas.member e'.1 := fun e' he' =>
        hst.member e'.1 fun heq => hfresh (heq ▸ List.mem_map_of_mem he')
      have hrest := ih hwf hnodup
        (fun e' he' => by
          rw [hmember e' he']
          exact hunits e' (List.mem_cons_of_mem _ he'))
        (fun e' he' => by
          rw [hmember e' he']
          exact hnew e' (List.mem_cons_of_mem _ he'))
        (by rwa [hst.steps.frame.context])
      refine (hrest.mono fun _ u htu hu => ?_).along fun u =>
        Completes.mono _ _ _ _ fun m hm => List.mem_cons_of_mem _ hm
      refine ⟨fun e' he' => ?_, ?_⟩
      · rcases List.mem_cons.mp he' with rfl | he'
        · exact hlinked.gathers hwf htu.toGathers hfresh
        · exact hu.1 e' he'
      · rw [hu.2, hlist, List.append_assoc, List.flatMap_cons,
          hlinked.accessesFrom_eq_of_gathers htu.toGathers hfresh]

/-- **Queued code units get the accesses on record for their keys**, and the accesses of the atlas
are listed in the order of the queue. -/
theorem moves_accessesBody (hs : s.WF) (hnodup : (s.pending.map Prod.fst).Nodup)
    (hunits : QueuesUnits s) (hnew : ∀ entry ∈ s.pending, (s.atlas.member entry.1).accesses = [])
    (hF : ∀ n, s.context.Mentions n → Registry.readable n.toList = false → F) :
    Moves (Completes {m | m ∈ s.pending.map Prod.fst}) F s accessesBody fun _ t =>
      (∀ entry ∈ s.pending, AccessesLinked t entry.1 entry.2) ∧
      t.atlas.accesses.toList =
        s.atlas.accesses.toList ++ s.pending.flatMap fun e => t.atlas.accessesFrom e.1 := by
  have hstart : Completes {m | m ∈ s.pending.map Prod.fst} s { s with pending := [] } :=
    ⟨⟨(Edit.pending [] (by simp)).steps, fun _ => rfl, fun _ _ => rfl, rfl,
      fun _ => SameUnit.refl _, fun _ _ => rfl, fun _ _ => rfl⟩, id⟩
  have hpop : Moves (Completes {m | m ∈ s.pending.map Prod.fst}) F s
      (modifyGet fun s => (s.pending, { s with pending := [] })) fun pending t =>
        pending = s.pending ∧ t = { s with pending := [] } := ⟨hstart, rfl, rfl⟩
  refine hpop.bind fun pending t hst h => ?_
  obtain ⟨rfl, rfl⟩ := h
  exact moves_forM_linkUnitAccesses (hst.steps.wf hs) hnodup hunits hnew hF

/-! ## From every state -/

section Leads

variable {R : Linker → Linker → Prop} [IsPreorder Linker R]

lemma leads_linkUses (hintern : ∀ name, Leads R (intern name)) (key : UnitKey) :
    Leads R (linkUses key) := by
  have hfield : ∀ r, Leads R (linkFieldAccess r) := fun r =>
    (hintern _).bind fun _ => (hintern _).bind fun _ => (leads_nameOf _).bind fun _ => leads_pure _
  have hcall : ∀ kind r, Leads R (linkCall kind r) := fun kind r =>
    (hintern _).bind fun _ => (Leads.mapM hintern).bind fun _ =>
      (hintern _).bind fun _ => leads_get.bind fun _ => leads_pure _
  exact leads_get.bind fun _ => (Leads.mapM hfield).bind fun _ =>
    (Leads.mapM (hcall _)).bind fun _ => (Leads.mapM (hcall _)).bind fun _ =>
      (Leads.mapM (hcall _)).bind fun _ => (Leads.mapM (hcall _)).bind fun _ => leads_pure _

lemma leads_linkUnitAccesses (hintern : ∀ name, Leads R (intern name))
    (hadd : ∀ make, Leads R (addToAtlas fun a => a.addAccess make))
    (hset : ∀ m ids, Leads R (modifyAtlas fun a => a.modifyMember m fun x => x.withAccesses ids))
    (member : MemberId) (key : UnitKey) : Leads R (linkUnitAccesses member key) := by
  rw [linkUnitAccesses_eq]
  refine (leads_linkUses hintern key).bind fun uses => leads_get.bind fun s => ?_
  refine (Leads.mapM fun _ => hadd _).bind fun ids => leads_get.bind fun t => ?_
  extract_lets finish
  have hfinish : ∀ u, Leads R (finish u) := fun _ => hset _ _
  split_ifs
  · exact (leads_throw _).bind hfinish
  · exact hfinish ()

/-- What asking for classes, emptying the queue, adding accesses and setting them keep, the phase
keeps. -/
theorem leads_accessesBody (hintern : ∀ name, Leads R (intern name))
    (hpop : ∀ s, R s { s with pending := [] })
    (hadd : ∀ make, Leads R (addToAtlas fun a => a.addAccess make))
    (hset : ∀ m ids, Leads R (modifyAtlas fun a => a.modifyMember m fun x => x.withAccesses ids)) :
    Leads R accessesBody :=
  Leads.bind hpop fun _ => Leads.forM fun _ => leads_linkUnitAccesses hintern hadd hset _ _

end Leads

end Linker

end ClassAtlas
