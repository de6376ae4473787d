import ClassAtlas.Proofs.Linker.Integrity
import ClassAtlas.Proofs.Linker.PhaseOrder
import ClassAtlas.Proofs.Linker.Recorded

/-!
# Full names

The full name of a member is made up when the member is linked, the full name of a target when its
access is.  A code unit is added without one, so a phase that fails half-way can leave a code unit
that has none, and its linker can hand the atlas out all the same.  Where no phase failed, every
full name is there; those of targets always are.

* `Atlas.memberName` — the full name that follows from the owner, the name and the parameters.
* `Atlas.Spelled` — the members and the targets of an atlas have the full names that follow.
* `Sound`, `run_sound` — what holds of a linker at every moment, failures included.
* `Tracked` — what holds of a linker as long as no phase fails.
* `perform_tracked`, `run_tracked` — requests keep this.
* `Succeeded` — an atlas that was handed out after all phases succeeded.
* `Succeeded.spelled` — **members and targets have their full names if all phases succeeded**.
-/

namespace ClassAtlas

lemma Member.Within.rawParameter_lt {m : Member} {e : Extent} (h : m.Within e) {c : ClassId}
    (hc : c ∈ m.rawParameters) : c.index < e.classes := by
  rcases hbody : m.body with ⟨type, raw⟩ | ⟨kind, unit⟩
  · simp [rawParameters, parameters, codeUnit?, hbody] at hc
  · simp only [rawParameters, parameters, codeUnit?, hbody, Option.map_some, Option.getD_some,
      List.mem_map] at hc
    obtain ⟨p, hp, rfl⟩ := hc
    have hunit := h.body
    rw [hbody] at hunit
    exact (hunit.parameters p hp).raw

namespace Atlas

variable {a a' : Atlas}

/-- The full name of a member: `Owner.name` for a field, `Owner.name(p, q)` for a code unit. -/
def memberName (a : Atlas) (m : Member) : String :=
  match m.codeKind? with
  | none => fieldName (a.cls m.owner).name m.name
  | some _ =>
    codeUnitName (a.cls m.owner).name m.name (m.rawParameters.map fun p => (a.cls p).fullName)

/-- Members and the targets of accesses have the full names that follow from their owners, names and
parameters. -/
structure Spelled (a : Atlas) : Prop where
  member : ∀ m : MemberId, m.index < a.members.size →
    (a.member m).fullName = a.memberName (a.member m)
  target : ∀ i : AccessId, i.index < a.accesses.size → a.SpelledTarget (a.access i).target

/-! ## Names that stay -/

section

variable (htype : ∀ c : ClassId, c.index < a.classes.size → (a'.cls c).type = (a.cls c).type)
include htype

lemma memberName_eq {m : Member} (hm : m.Within a.extent) : a'.memberName m = a.memberName m := by
  have howner : (a'.cls m.owner).name = (a.cls m.owner).name :=
    congrArg Descriptor.name (htype _ hm.owner)
  have hparameters : m.rawParameters.map (fun p => (a'.cls p).fullName) =
      m.rawParameters.map fun p => (a.cls p).fullName :=
    List.map_congr_left fun p hp => congrArg Descriptor.fullName (htype p (hm.rawParameter_lt hp))
  rw [memberName, memberName, howner, hparameters]

/-- Names stay while classes are added. -/
lemma Spelled.of_types (h : a.Spelled) (ha : a.InRange) (hmembers : a'.members = a.members)
    (haccesses : a'.accesses = a.accesses) : a'.Spelled := by
  refine ⟨fun m hm => ?_, fun i hi => ?_⟩
  · rw [hmembers] at hm
    rw [show a'.member m = a.member m by rw [Atlas.member, Atlas.member, hmembers],
      memberName_eq htype (ha.member m hm)]
    exact h.member m hm
  · rw [haccesses] at hi
    rw [show a'.access i = a.access i by rw [Atlas.access, Atlas.access, haccesses]]
    exact (h.target i hi).of_types htype (ha.access i hi).owner (ha.access i hi).parameters

end

end Atlas

namespace Linker

open Atlas

variable {s t : Linker} {context : ImportContext} {options : ImportOptions} {files : Files}
  {a : Atlas}

lemma SameUnit.isSigned {m m' : Member} (h : SameUnit m m') : m'.isSigned = m.isSigned :=
  h.keep Member.isSigned fun m _ _ _ hbody => by simp [Member.isSigned, Member.codeUnit?, hbody]

lemma UnitLinked.isSigned {owner : ClassId} {kind : CodeKind} {r : Record.CodeUnit} {m : MemberId}
    (h : UnitLinked t owner kind r m) : (t.atlas.member m).isSigned = true := by
  obtain ⟨unit, type, raw, hunit⟩ := h.unit
  simp [Member.isSigned, Member.codeUnit?, hunit.body, hunit.rawReturns]

/-- Accesses are no part of a name. -/
lemma SameUnit.memberName {m m' : Member} (h : SameUnit m m') (a : Atlas) :
    a.memberName m' = a.memberName m :=
  h.keep a.memberName fun m kind unit ids hbody => by
    simp [Atlas.memberName, Member.codeKind?, Member.rawParameters, Member.parameters,
      Member.codeUnit?, hbody]

lemma FieldLinked.spelled {r : Record.Field} {m : MemberId}
    (h : FieldLinked t (t.atlas.member m).owner r m) :
    (t.atlas.member m).fullName = t.atlas.memberName (t.atlas.member m) := by
  rw [memberName, Option.isNone_iff_eq_none.mp h.isField, h.name]
  exact h.fullName

lemma UnitLinked.spelled {kind : CodeKind} {r : Record.CodeUnit} {m : MemberId}
    (h : UnitLinked t (t.atlas.member m).owner kind r m) :
    (t.atlas.member m).fullName = t.atlas.memberName (t.atlas.member m) := by
  obtain ⟨unit, type, raw, hunit⟩ := h.unit
  rw [memberName, h.kind, h.name, hunit.fullName]
  simp [Member.rawParameters, Member.parameters, Member.codeUnit?, hunit.body, Function.comp_def]

/-! ## At every moment -/

/-- An edit keeps the full names of targets, and a new one has its full name. -/
lemma Edit.spelledTarget (h : Edit s t) (ha : s.atlas.InRange)
    (hs : ∀ i : AccessId, i.index < s.atlas.accesses.size →
      s.atlas.SpelledTarget (s.atlas.access i).target) {i : AccessId}
    (hi : i.index < t.atlas.accesses.size) : t.atlas.SpelledTarget (t.atlas.access i).target := by
  have htype := h.frame.type
  have hold : i.index < s.atlas.accesses.size →
      t.atlas.SpelledTarget (s.atlas.access i).target := fun hlt =>
    (hs i hlt).of_types htype (ha.access i hlt).owner (ha.access i hlt).parameters
  have hsame : t.atlas.accesses = s.atlas.accesses →
      t.atlas.SpelledTarget (t.atlas.access i).target := fun heq => by
    rw [Atlas.access, heq]
    exact hold (heq ▸ hi)
  cases h with
  | access make _ _ hwithin hspelled =>
      rw [Atlas.access_addAccess]
      split_ifs with hnew
      · exact (hspelled _).of_types htype (hwithin _).owner (hwithin _).parameters
      · have hle : i.index < s.atlas.accesses.size + 1 := by simpa [Atlas.addAccess] using hi
        exact hold ((Nat.lt_succ_iff.mp hle).lt_of_ne hnew)
  | grow h => exact hsame h.atlas.accesses
  | supertypes id superclass interfaces =>
      have haccesses := congrArg Atlas.accesses
        (setSupertypes_frame id superclass interfaces s.atlas).2
      exact hsame haccesses
  | cls | bounds | addMember | member | pending => exact hsame rfl

/-- What holds of a linker at every moment of a run, failures included. -/
structure Sound (s : Linker) : Prop where
  valid : Valid s
  integral : s.atlas.Integral
  stub : ∀ c, (s.atlas.cls c).imported = false → (s.atlas.cls c).Stub
  target : ∀ i : AccessId, i.index < s.atlas.accesses.size →
    s.atlas.SpelledTarget (s.atlas.access i).target

/-- A member is listed by its owner. -/
lemma Sound.mem_members (h : Sound s) {m : MemberId} (hm : m.index < s.atlas.members.size) :
    m ∈ (s.atlas.cls (s.atlas.member m).owner).members :=
  List.count_pos_iff.mp (by simp [h.integral.listed m hm])

/-- A class that has members is imported. -/
lemma Sound.imported_of_mem (h : Sound s) {c : ClassId} {m : MemberId}
    (hm : m ∈ (s.atlas.cls c).members) : (s.atlas.cls c).imported = true := by
  by_contra hnot
  rw [(h.stub c (by simpa using hnot)).members] at hm
  cases hm

lemma Started.sound (h : Started context s) : Sound s where
  valid := h.valid
  integral := h.integral
  stub c _ := (h.registered.blank c).toStub
  target i hi := by simp [h.registered.accesses] at hi

lemma run_sound (hs : Sound s) (rs : List Request) : Sound (s.run rs).2 := by
  have hkept := run_invariant
    (P := fun s => s.atlas.Integral ∧
      (∀ c, (s.atlas.cls c).imported = false → (s.atlas.cls c).Stub) ∧
      ∀ i : AccessId, i.index < s.atlas.accesses.size →
        s.atlas.SpelledTarget (s.atlas.access i).target)
    (fun _ _ h => h) (fun s t hwf hedit h => ⟨hedit.integral hwf h.1, fun c hc => ?_,
      fun i hi => hedit.spelledTarget h.1.inRange h.2.2 hi⟩)
    hs.valid ⟨hs.integral, hs.stub, hs.target⟩ rs
  · exact ⟨run_valid hs.valid rs, hkept.1, hkept.2.1, hkept.2.2⟩
  · rw [hedit.frame.isImported] at hc
    exact hedit.stub hc (h.2.1 c hc)

lemma perform_sound (hs : Sound s) (r : Request) : Sound (s.perform r).2 :=
  run_sound hs [r]

lemma Completed.exists_sound (h : Completed context a) : ∃ s, Sound s ∧ s.atlas = a := by
  obtain ⟨options, files, s, rs, hstart, hfinish⟩ := h
  exact ⟨(s.run rs).2, run_sound (start_eq_ok hstart).sound rs, finish_eq_ok hfinish⟩

/-! ## As long as no phase fails -/

/-- What holds of a linker as long as no phase fails: every code unit has its signature. -/
structure Tracked (s : Linker) : Prop extends Sound s where
  spelled : s.atlas.Spelled
  signed : ∀ m, (s.atlas.member m).isField = false → (s.atlas.member m).isSigned = true

lemma Started.tracked (h : Started context s) : Tracked s where
  toSound := h.sound
  spelled := ⟨by simp [h.registered.members], by simp [h.registered.accesses]⟩
  signed m hm := by simpa [h.registered.members] using lt_of_not_isField hm

/-- A phase that is started and does not fail does all of its work. -/
lemma body_of_perform {r : Request} {p : PhaseStep} (h : r.phase? = some p) (hs : Valid s)
    (hphase : s.phase = p.expected)
    (hok : ∀ name, (s.perform r).1 ≠ .error (.invalidTypeName name)) :
    p.body { s with phase := p.next } = .ok () (s.perform r).2 := by
  obtain ⟨-, -, -, hcarried⟩ := perform_started h hs hphase
  rw [perform_of_phase h hphase] at hok hcarried ⊢
  rcases hx : p.body { s with phase := p.next } with ⟨⟨⟩, t⟩ | ⟨e, t⟩
  · rfl
  · rw [hx] at hok hcarried
    rcases hcarried with herror | ⟨name, herror⟩
    · cases herror
    · exact absurd herror (hok name)

/-- Asking for a class changes no name. -/
lemma Tracked.grows (hs : Tracked s) (h : Grows s t) (ht : Sound t) : Tracked t where
  toSound := ht
  spelled := hs.spelled.of_types h.frame.type hs.integral.inRange h.atlas.members h.atlas.accesses
  signed m hm := by
    rw [h.atlas.member] at hm ⊢
    exact hs.signed m hm

/-- The first phase adds no member. -/
lemma Tracked.hierarchy (hs : Tracked s) (hphase : s.phase = .created)
    (h : hierarchyBody { s with phase := .hierarchy } = .ok () t) (ht : Sound t) : Tracked t := by
  have hbody : Moves KeepsMembers True _ hierarchyBody _ :=
    moves_hierarchyBody (hs.valid.wf.withPhase .hierarchy) hs.valid.nodup hs.valid.imported
      (hs.valid.unenclosed hphase) (hs.valid.unlinked hphase) fun _ _ _ => trivial
  obtain ⟨hkeeps, -⟩ := hbody.of_ok h
  have hmembers : t.atlas.members = #[] :=
    hkeeps.memberTable.trans (hs.valid.memberless (Or.inl hphase))
  refine ⟨ht, ⟨by simp [hmembers], ht.target⟩, fun m hm => ?_⟩
  simpa [hmembers] using lt_of_not_isField hm

/-- The second phase links the members of every class with a record, which had none before. -/
lemma Tracked.classLinked (hs : Tracked s) (hphase : s.phase = .hierarchy)
    (h : membersBody { s with phase := .members } = .ok () t) :
    Adds Set.univ { s with phase := .members } t ∧
      ∀ c, (t.atlas.cls c).imported = true → ClassLinked [] t c := by
  have hbody : Moves (Adds Set.univ) True _ membersBody _ :=
    moves_membersBody (hs.valid.wf.withPhase .members) hs.valid.nodup hs.valid.imported
      fun _ _ _ => trivial
  obtain ⟨hadds, hlinked⟩ := hbody.of_ok h
  refine ⟨hadds, fun c himported => ?_⟩
  have hc : c ∈ s.atlas.imported.toList := by
    rw [hs.valid.mem_imported, ← himported]
    exact (hadds.steps.frame.isImported c).symm
  have hnone : (s.atlas.cls c).members = [] := by
    refine List.eq_nil_iff_forall_not_mem.mpr fun m hm => ?_
    have hlt := (hs.integral.inRange.cls c (hs.valid.lt hc)).members m hm
    simp [Atlas.extent, hs.valid.memberless (Or.inr hphase)] at hlt
  exact hnone ▸ (hlinked c hc).1

/-- Every member is linked if the classes with records are: its owner lists it, so the owner is one
of them. -/
lemma Sound.linked (hs : Sound s)
    (hlinked : ∀ c, (s.atlas.cls c).imported = true → ClassLinked [] s c) {m : MemberId}
    (hm : m.index < s.atlas.members.size) :
    (∃ r, FieldLinked s (s.atlas.member m).owner r m) ∨
      ∃ kind r, UnitLinked s (s.atlas.member m).owner kind r m := by
  have hlisted := hs.mem_members hm
  generalize (s.atlas.member m).owner = c at hlisted
  obtain ⟨fields, units, hmembers, hfields, hunits⟩ := hlinked c (hs.imported_of_mem hlisted)
  rw [hmembers, List.nil_append, List.mem_append] at hlisted
  rcases hlisted with hlisted | hlisted
  · obtain ⟨r, -, hfield⟩ := hfields.exists_left hlisted
    exact Or.inl ⟨r, hfield⟩
  · obtain ⟨e, -, hunit⟩ := hunits.exists_left hlisted
    exact Or.inr ⟨e.1, e.2, hunit⟩

/-- The second phase links every member that there is afterwards. -/
lemma Tracked.members (hs : Tracked s) (hphase : s.phase = .hierarchy)
    (h : membersBody { s with phase := .members } = .ok () t) (ht : Sound t) : Tracked t := by
  obtain ⟨-, hlinked⟩ := hs.classLinked hphase h
  refine ⟨ht, ⟨fun m hm => ?_, ht.target⟩, fun m hm => ?_⟩
  · rcases ht.linked hlinked hm with ⟨r, hfield⟩ | ⟨kind, r, hunit⟩
    · exact hfield.spelled
    · exact hunit.spelled
  · rcases ht.linked hlinked (lt_of_not_isField hm) with ⟨r, hfield⟩ | ⟨kind, r, hunit⟩
    · rw [hfield.isField] at hm
      cases hm
    · exact hunit.isSigned

/-- The third phase changes accesses only. -/
lemma Tracked.accesses (hs : Tracked s) (hphase : s.phase = .members)
    (h : accessesBody { s with phase := .accesses } = .ok () t) (ht : Sound t) : Tracked t := by
  obtain ⟨hcompletes, -⟩ := accesses_eq_ok hs.valid hphase h
  have htype : ∀ c : ClassId, c.index < s.atlas.classes.size →
      (t.atlas.cls c).type = (s.atlas.cls c).type := hcompletes.steps.frame.type
  have hsame : ∀ m, SameUnit (s.atlas.member m) (t.atlas.member m) := hcompletes.unit
  refine ⟨ht, ⟨fun m hm => ?_, ht.target⟩, fun m hm => ?_⟩
  · have hlt : m.index < s.atlas.members.size := hcompletes.size ▸ hm
    rw [(hsame m).fullName, (hsame m).memberName,
      memberName_eq htype (hs.integral.inRange.member m hlt)]
    exact hs.spelled.member m hlt
  · rw [(hsame m).isSigned]
    exact hs.signed m ((hsame m).sameMember.isField ▸ hm)

/-- **A request keeps what holds as long as no phase fails**, if it does not make one fail. -/
theorem perform_tracked (hs : Tracked s) (r : Request)
    (hok : r.phase?.isSome → ∀ name, (s.perform r).1 ≠ .error (.invalidTypeName name)) :
    Tracked (s.perform r).2 := by
  have hsound := perform_sound hs.toSound r
  rcases hr : r.phase? with _ | p
  · obtain ⟨name, rfl⟩ := Request.eq_cls hr
    exact hs.grows (perform_cls s name) hsound
  · by_cases hphase : s.phase = p.expected
    · have hbody := body_of_perform hr hs.valid hphase (hok (by simp [hr]))
      cases r with
      | hierarchy =>
          cases hr
          exact hs.hierarchy hphase hbody hsound
      | members =>
          cases hr
          exact hs.members hphase hbody hsound
      | accesses =>
          cases hr
          exact hs.accesses hphase hbody hsound
      | cls name => cases hr
    · rw [perform_of_ne hr hphase]
      exact hs

/-- **A run in which no phase fails keeps it.** -/
theorem run_tracked (hs : Tracked s) (rs : List Request)
    (hok : ∀ e ∈ s.exchanges rs, e.1.phase?.isSome → ∀ name,
      e.2 ≠ .error (.invalidTypeName name)) : Tracked (s.run rs).2 := by
  induction rs generalizing s with
  | nil => exact hs
  | cons r rs ih =>
      have hfirst : (r, (s.perform r).1) ∈ s.exchanges (r :: rs) := List.mem_cons_self ..
      refine ih (perform_tracked hs r (hok _ hfirst)) fun e he => hok e ?_
      exact List.mem_cons_of_mem _ he

/-! ## When all phases succeeded -/

/-- An atlas that is handed out for a context after all phases succeeded: some run of a linker for
it ended with this atlas, and none of the phases that were started failed at a type name. -/
def Succeeded (context : ImportContext) (a : Atlas) : Prop :=
  ∃ options files s rs, start context options files = .ok s ∧ (s.run rs).2.finish = .ok a ∧
    ∀ e ∈ s.exchanges rs, e.1.phase?.isSome → ∀ name, e.2 ≠ .error (.invalidTypeName name)

lemma Succeeded.completed (h : Succeeded context a) : Completed context a := by
  obtain ⟨options, files, s, rs, hstart, hfinish, -⟩ := h
  exact ⟨options, files, s, rs, hstart, hfinish⟩

lemma Succeeded.exists_tracked (h : Succeeded context a) : ∃ s, Tracked s ∧ s.atlas = a := by
  obtain ⟨options, files, s, rs, hstart, hfinish, hok⟩ := h
  exact ⟨(s.run rs).2, run_tracked (start_eq_ok hstart).tracked rs hok, finish_eq_ok hfinish⟩

/-- **Members and targets have their full names if all phases succeeded.** -/
theorem Succeeded.spelled (h : Succeeded context a) : a.Spelled := by
  obtain ⟨s, hs, rfl⟩ := h.exists_tracked
  exact hs.spelled

lemma Succeeded.mem_members (h : Succeeded context a) {m : MemberId}
    (hm : m.index < a.members.size) : m ∈ (a.cls (a.member m).owner).members := by
  obtain ⟨s, hs, rfl⟩ := h.exists_tracked
  exact hs.mem_members hm

/-- Linking all phases in order is one of the runs. -/
lemma succeeded_of_link (h : Atlas.link context options files = .ok a) : Succeeded context a := by
  obtain ⟨s, t, u, v, hstart, hlinked, rfl⟩ := linked_of_link h
  obtain ⟨hrun, hphase⟩ := run_of_linked (start_eq_ok hstart) hlinked
  refine ⟨options, files, s, [.hierarchy, .members, .accesses], hstart, ?_, ?_⟩
  · rw [hrun]
    exact if_pos hphase
  · simp [exchanges, hrun]

end Linker

end ClassAtlas
