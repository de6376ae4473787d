import ClassAtlas.Proofs.Linker.Accesses
import ClassAtlas.Proofs.Linker.Start

/-!
# Runs of a linker

A linker can be asked for phases in any order, and after failures too.

* `run` — carries out requests one after the other.
* `FullQueue` — the queue holds the code units with a signature, in order.
* `Valid` — what holds of a linker at every moment of a run.
* `perform_started`, `perform_of_ne` — which requests lead to the next phase.
* `run_invariant` — what edits keep holds after every run.
* `link_isOk` — **linking succeeds if all names can be read**.
* `Completed` — an atlas that some run ended with; `completed_of_link`.
* `exists_link` — a batch whose names can be read has such an atlas.
-/

namespace ClassAtlas

namespace Linker

variable {s t : Linker}

/-- Carries out requests one after the other. -/
def run (s : Linker) : List Request → List (Except ModelError (Option ClassId)) × Linker
  | [] => ([], s)
  | r :: rs =>
    let rest := (s.perform r).2.run rs
    ((s.perform r).1 :: rest.1, rest.2)

/-! ## Phases -/

/-- A phase that a request asks for: the phase that has to be reached, the one that is started, and
what is done. -/
structure PhaseStep where
  expected : Phase
  next : Phase
  body : LinkM Unit

/-- The phase that a request asks for. -/
def Request.phase? : Request → Option PhaseStep
  | .hierarchy => some ⟨.created, .hierarchy, hierarchyBody⟩
  | .members => some ⟨.hierarchy, .members, membersBody⟩
  | .accesses => some ⟨.members, .accesses, accessesBody⟩
  | .cls _ => none

lemma Request.eq_cls {r : Request} (h : r.phase? = none) : ∃ name, r = .cls name := by
  cases r with
  | cls name => exact ⟨name, rfl⟩
  | _ => cases h

lemma Request.step_eq {r : Request} {p : PhaseStep} (h : r.phase? = some p) :
    r.step = (do advance p.expected p.next; p.body; return none) := by
  cases r with
  | hierarchy =>
      cases h
      simp only [step, linkHierarchy_eq, bind_assoc]
  | members =>
      cases h
      simp only [step, linkMembers_eq, bind_assoc]
  | accesses =>
      cases h
      simp only [step, linkAccesses_eq, bind_assoc]
  | cls name => cases h

lemma advance_of_phase {expected next : Phase} (h : s.phase = expected) :
    advance expected next s = .ok () { s with phase := next } := by
  change (if s.phase ≠ expected then _ else _ : LinkM Unit) s = _
  rw [if_neg (not_not.mpr h)]
  rfl

lemma advance_of_ne {expected next : Phase} (h : s.phase ≠ expected) :
    advance expected next s = .error (.phaseOrder expected s.phase) s := by
  change (if s.phase ≠ expected then _ else _ : LinkM Unit) s = _
  rw [if_pos h]
  rfl

/-- A phase is started if the one before it is reached. -/
lemma perform_of_phase {r : Request} {p : PhaseStep} (h : r.phase? = some p)
    (hphase : s.phase = p.expected) :
    s.perform r = match p.body { s with phase := p.next } with
      | .ok _ t => (.ok none, t)
      | .error e t => (.error e, t) := by
  rw [perform, Request.step_eq h, EStateM.run, bind_of_ok (advance_of_phase hphase)]
  rcases hbody : p.body { s with phase := p.next } with ⟨_, t⟩ | ⟨e, t⟩
  · rw [bind_of_ok hbody]
    rfl
  · rw [bind_of_error hbody]

lemma perform_snd (s : Linker) (r : Request) : (s.perform r).2 = after r.step s := by
  rw [perform, EStateM.run, after]
  rcases r.step s with ⟨answer, t⟩ | ⟨e, t⟩
  · rfl
  · rfl

/-- Otherwise nothing happens. -/
lemma perform_of_ne {r : Request} {p : PhaseStep} (h : r.phase? = some p)
    (hphase : s.phase ≠ p.expected) :
    s.perform r = (.error (.phaseOrder p.expected s.phase), s) := by
  rw [perform, Request.step_eq h, EStateM.run, bind_of_error (advance_of_ne hphase)]

/-! ## What holds during a run -/

/-- The queue holds the code units that have a signature, in the order in which they were added. -/
structure FullQueue (s : Linker) : Prop where
  inOrder : InOrder s.pending
  entry : ∀ entry ∈ s.pending, Queued s entry
  signed : ∀ m, (s.atlas.member m).isSigned = true → m ∈ s.pending.map Prod.fst

lemma FullQueue.grows (hs : FullQueue s) (h : Grows s t) : FullQueue t where
  inOrder := h.pending ▸ hs.inOrder
  entry entry hentry :=
    (hs.entry entry (h.pending ▸ hentry)).of_member h.frame (h.atlas.member _)
  signed m hm := by
    rw [h.atlas.member] at hm
    rw [h.pending]
    exact hs.signed m hm

/-- All that is queued comes from one phase. -/
lemma Queues.fullQueue {new : List (MemberId × UnitKey)} (h : Queues s t new)
    (hpending : s.pending = []) (hmembers : s.atlas.members = #[]) : FullQueue t := by
  have heq : t.pending = new := by rw [h.pending, hpending, List.nil_append]
  refine ⟨heq ▸ h.inOrder, heq ▸ h.entry, fun m hm => heq ▸ h.signed m ?_ hm⟩
  simp [hmembers]

/-- What holds of a linker at every moment of a run.  There are no members before the second phase,
and no accesses before the third. -/
structure Valid (s : Linker) : Prop where
  wf : s.WF
  nodup : s.atlas.imported.toList.Nodup
  mem_imported : ∀ c, c ∈ s.atlas.imported.toList ↔ (s.atlas.cls c).imported = true
  units : QueuesUnits s
  lists : ListsAccesses s
  unenclosed : s.phase = .created → ∀ c, (s.atlas.cls c).enclosingClass = none
  unlinked : s.phase = .created → ∀ c, (s.atlas.cls c).supertypes = (none, [])
  unqueued : s.phase = .created ∨ s.phase = .hierarchy → s.pending = []
  memberless : s.phase = .created ∨ s.phase = .hierarchy → s.atlas.members = #[]
  accessless : s.phase ≠ .accesses → s.atlas.accesses = #[]
  queue : s.phase = .members → FullQueue s

lemma Valid.imported (hs : Valid s) (c : ClassId) (hc : c ∈ s.atlas.imported.toList) :
    (s.atlas.cls c).imported = true :=
  (hs.mem_imported c).mp hc

lemma Valid.lt (hs : Valid s) {c : ClassId} (hc : c ∈ s.atlas.imported.toList) :
    c.index < s.atlas.classes.size :=
  Atlas.lt_of_imported (hs.imported c hc)

lemma Started.valid {context : ImportContext} (h : Started context s) : Valid s where
  wf := h.wf
  nodup := h.registered.nodup
  mem_imported := h.registered.mem_imported
  units entry hentry := by
    rw [h.pending] at hentry
    cases hentry
  lists i hi := by simp [h.registered.accesses] at hi
  unenclosed _ c := (h.registered.blank c).enclosingClass
  unlinked _ c := by
    rw [ClassNode.supertypes, (h.registered.blank c).superclass, (h.registered.blank c).interfaces]
  unqueued _ := h.pending
  memberless _ := h.registered.members
  accessless _ := h.registered.accesses
  queue hphase := by
    rw [h.phase] at hphase
    cases hphase

/-- Of what holds during a run, edits keep all that has nothing to do with phases. -/
lemma Valid.steps (hs : Valid s) {p : Phase} (h : Steps { s with phase := p } t)
    (hlists : ListsAccesses t)
    (hunenclosed : p = .created → ∀ c, (t.atlas.cls c).enclosingClass = none)
    (hunlinked : p = .created → ∀ c, (t.atlas.cls c).supertypes = (none, []))
    (hunqueued : p = .created ∨ p = .hierarchy → t.pending = [])
    (hmemberless : p = .created ∨ p = .hierarchy → t.atlas.members = #[])
    (haccessless : p ≠ .accesses → t.atlas.accesses = #[])
    (hqueue : p = .members → FullQueue t) : Valid t := by
  have hwf := hs.wf.withPhase p
  have hframe := h.frame
  have hphase : t.phase = p := h.phase
  refine ⟨h.wf hwf, hframe.imported ▸ hs.nodup, fun c => ?_, h.queuesUnits hs.units, hlists,
    ?_, ?_, ?_, ?_, ?_, ?_⟩
  · rw [hframe.imported, hframe.isImported]
    exact hs.mem_imported c
  all_goals rwa [hphase]

/-- **A phase that is started leads from a valid linker to a valid one**, even if it fails.  It
fails only if a name cannot be read. -/
theorem moves_body {r : Request} {p : PhaseStep} (h : r.phase? = some p) (hs : Valid s)
    (hphase : s.phase = p.expected) :
    Moves (fun u t => Steps u t ∧ Valid t)
      (∃ n, s.context.Mentions n ∧ Registry.readable n.toList = false)
      { s with phase := p.next } p.body fun _ _ => True := by
  have hwf := hs.wf.withPhase p.next
  cases r with
  | hierarchy =>
      cases h
      refine ((moves_hierarchyBody hwf hs.nodup hs.imported (hs.unenclosed hphase)
        (hs.unlinked hphase) fun n hn hread => ⟨n, hn, hread⟩).mono fun _ _ _ _ => trivial).along
        fun t hst => ⟨hst.steps, hs.steps hst.steps ?_ (fun h => by cases h) (fun h => by cases h)
          (fun _ => ?_) (fun _ => ?_) (fun _ => ?_) fun h => by cases h⟩
      · exact hs.lists.of_members hst.accesses fun m _ => hst.member m
      · exact hst.pending.trans (hs.unqueued (Or.inl hphase))
      · exact hst.memberTable.trans (hs.memberless (Or.inl hphase))
      · exact hst.accesses.trans (hs.accessless (by simp [hphase]))
  | members =>
      cases h
      refine ((moves_membersBody hwf hs.nodup hs.imported
        fun n hn hread => ⟨n, hn, hread⟩).mono fun _ _ _ _ => trivial).along
        fun t hst => ⟨hst.steps, hs.steps hst.steps ?_ (fun h => by cases h) (fun h => by cases h)
          (fun h => by rcases h with h | h <;> cases h)
          (fun h => by rcases h with h | h <;> cases h)
          (fun _ => ?_) fun _ => ?_⟩
      · exact hs.lists.of_members hst.accesses hst.member
      · exact hst.accesses.trans (hs.accessless (by simp [hphase]))
      · obtain ⟨new, hnew⟩ := hst.queued
        exact hnew.fullQueue (hs.unqueued (Or.inr hphase)) (hs.memberless (Or.inr hphase))
  | accesses =>
      cases h
      refine ((moves_accessesBody hwf (hs.queue hphase).inOrder.nodup hs.units
        (fun entry hentry => ((hs.queue hphase).entry entry hentry).accesses)
        fun n hn hread => ⟨n, hn, hread⟩).mono fun _ _ _ _ => trivial).along
        fun t hst => ⟨hst.steps, hs.steps hst.steps (hst.listed hs.lists) (fun h => by cases h)
          (fun h => by cases h) (fun h => by rcases h with h | h <;> cases h)
          (fun h => by rcases h with h | h <;> cases h) (fun h => absurd rfl h)
          fun h => by cases h⟩
  | cls name => cases h

/-- An answer of a phase that was started: it was carried out, or it met an invalid type name. -/
def Carried (answer : Except ModelError (Option ClassId)) : Prop :=
  answer = .ok none ∨ ∃ name, answer = .error (.invalidTypeName name)

/-- What a phase that is started leads to. -/
lemma perform_started {r : Request} {p : PhaseStep} (h : r.phase? = some p) (hs : Valid s)
    (hphase : s.phase = p.expected) :
    Steps { s with phase := p.next } (s.perform r).2 ∧ Valid (s.perform r).2 ∧
      (s.perform r).2.phase = p.next ∧ Carried (s.perform r).1 := by
  have hbody := moves_body h hs hphase
  rw [perform_of_phase h hphase]
  rcases hx : p.body { s with phase := p.next } with ⟨_, t⟩ | ⟨e, t⟩
  · obtain ⟨⟨hsteps, hvalid⟩, -⟩ := hbody.of_ok hx
    exact ⟨hsteps, hvalid, hsteps.phase, Or.inl rfl⟩
  · obtain ⟨⟨hsteps, hvalid⟩, -, name, rfl⟩ := hbody.of_error hx
    exact ⟨hsteps, hvalid, hsteps.phase, Or.inr ⟨name, rfl⟩⟩

/-- Asking for a class lets the atlas grow. -/
lemma moves_cls (s : Linker) (name : String) :
    Moves Grows True s (Request.step (.cls name)) fun _ _ => True := by
  have hintern : Moves Grows True s (intern name) fun id t =>
      t.atlas.names.get? name = some id := moves_intern fun _ => trivial
  exact hintern.bind fun _ _ _ _ => moves_pure trivial

lemma perform_cls (s : Linker) (name : String) : Grows s (s.perform (.cls name)).2 := by
  have hstep := moves_cls s name
  rw [perform, EStateM.run]
  rcases hx : Request.step (.cls name) s with ⟨answer, t⟩ | ⟨e, t⟩
  · exact (hstep.of_ok hx).1
  · exact (hstep.of_error hx).1

/-- **A request leads from a valid linker to a valid one by edits**, after the phase was set. -/
theorem perform_valid (hs : Valid s) (r : Request) :
    Valid (s.perform r).2 ∧ ∃ p, Steps { s with phase := p } (s.perform r).2 := by
  rcases hr : r.phase? with _ | p
  · obtain ⟨name, rfl⟩ := Request.eq_cls hr
    have hgrows := perform_cls s name
    refine ⟨hs.steps hgrows.steps (hgrows.listsAccesses hs.lists) (fun hp c => ?_) (fun hp c => ?_)
      (fun hp => ?_) (fun hp => ?_) (fun hp => ?_) fun hp => ?_, s.phase, hgrows.steps⟩
    · exact (hgrows.atlas.enclosingClass c).trans (hs.unenclosed hp c)
    · exact (hgrows.atlas.supertypes c).trans (hs.unlinked hp c)
    · exact hgrows.pending.trans (hs.unqueued hp)
    · exact hgrows.atlas.members.trans (hs.memberless hp)
    · exact hgrows.atlas.accesses.trans (hs.accessless hp)
    · exact (hs.queue hp).grows hgrows
  · by_cases hphase : s.phase = p.expected
    · obtain ⟨hsteps, hvalid, -⟩ := perform_started hr hs hphase
      exact ⟨hvalid, p.next, hsteps⟩
    · rw [perform_of_ne hr hphase]
      exact ⟨hs, s.phase, refl_of Steps s⟩

theorem run_valid (hs : Valid s) (rs : List Request) : Valid (s.run rs).2 := by
  induction rs generalizing s with
  | nil => exact hs
  | cons r rs ih => exact ih (perform_valid hs r).1

/-- **What edits keep holds after every run.** -/
theorem run_invariant {P : Linker → Prop} (hphase : ∀ s p, P s → P { s with phase := p })
    (hedit : ∀ s t, s.WF → Edit s t → P s → P t) (hs : Valid s) (h : P s) (rs : List Request) :
    P (s.run rs).2 := by
  have hsteps : ∀ {s t : Linker}, s.WF → Steps s t → P s → P t := by
    intro s t hwf hst hP
    induction hst with
    | refl => exact hP
    | tail hfirst hlast ih => exact hedit _ _ (Steps.wf hfirst hwf) hlast ih
  induction rs generalizing s with
  | nil => exact h
  | cons r rs ih =>
      obtain ⟨hvalid, p, hst⟩ := perform_valid hs r
      exact ih hvalid (hsteps (hs.wf.withPhase p) hst (hphase s p h))

lemma context_run (hs : Valid s) (rs : List Request) : (s.run rs).2.context = s.context :=
  run_invariant (P := fun t => t.context = s.context) (fun _ _ h => h)
    (fun _ _ _ hedit h => hedit.frame.context.trans h) hs rfl rs

/-! ## All phases in order -/

variable {context : ImportContext} {options : ImportOptions} {files : Files} {a : Atlas}

/-- The states between the phases, if all of them succeed. -/
structure Linked (s t u v : Linker) : Prop where
  hierarchy : hierarchyBody { s with phase := .hierarchy } = .ok () t
  members : membersBody { t with phase := .members } = .ok () u
  accesses : accessesBody { u with phase := .accesses } = .ok () v

/-- A phase that succeeds leaves the linker at it. -/
lemma phase_of_ok {r : Request} {p : PhaseStep} (h : r.phase? = some p) (hs : Valid s)
    (hphase : s.phase = p.expected) (hok : p.body { s with phase := p.next } = .ok () t) :
    Steps { s with phase := p.next } t ∧ Valid t ∧ t.phase = p.next := by
  obtain ⟨⟨hsteps, hvalid⟩, -⟩ := (moves_body h hs hphase).of_ok hok
  exact ⟨hsteps, hvalid, hsteps.phase⟩

lemma Linked.valid {u v : Linker} (h : Linked s t u v) (hs : Started context s) :
    (Valid t ∧ t.phase = .hierarchy) ∧ (Valid u ∧ u.phase = .members) ∧
      Valid v ∧ v.phase = .accesses := by
  obtain ⟨-, ht, htphase⟩ := phase_of_ok (r := .hierarchy) rfl hs.valid hs.phase h.hierarchy
  obtain ⟨-, hu, huphase⟩ := phase_of_ok (r := .members) rfl ht htphase h.members
  obtain ⟨-, hv, hvphase⟩ := phase_of_ok (r := .accesses) rfl hu huphase h.accesses
  exact ⟨⟨ht, htphase⟩, ⟨hu, huphase⟩, hv, hvphase⟩

/-- The atlas that a step ends with. -/
def finishAfter (x : LinkM Unit) (s : Linker) : Except ModelError Atlas :=
  match x s with
  | .ok _ t => t.finish
  | .error e _ => .error e

/-- What follows a phase starts where its body ends. -/
lemma finishAfter_phase {expected next : Phase} {body f : LinkM Unit}
    (hphase : s.phase = expected) :
    finishAfter (do advance expected next; body; f) s =
      match body { s with phase := next } with
      | .ok _ t => finishAfter f t
      | .error e _ => .error e := by
  rw [finishAfter, bind_of_ok (advance_of_phase hphase)]
  rcases hx : body { s with phase := next } with ⟨answer, t⟩ | ⟨e, t⟩
  · rw [bind_of_ok hx]
    rfl
  · rw [bind_of_error hx]

lemma link_of_start (h : start context options files = .ok s) :
    Atlas.link context options files = finishAfter (do
      advance .created .hierarchy; hierarchyBody
      advance .hierarchy .members; membersBody
      advance .members .accesses; accessesBody
      pure ()) s := by
  have hsteps : (do linkHierarchy; linkMembers; linkAccesses : LinkM Unit) = (do
      advance .created .hierarchy; hierarchyBody
      advance .hierarchy .members; membersBody
      advance .members .accesses; accessesBody
      pure ()) := by
    simp only [linkHierarchy_eq, linkMembers_eq, linkAccesses_eq, bind_assoc, bind_pure_unit]
  rw [← hsteps, Atlas.link, h]
  rfl

/-- **Linking is done if and only if all phases are.** -/
theorem link_eq_ok (hstart : start context options files = .ok s) :
    Atlas.link context options files = .ok a ↔ ∃ t u v, Linked s t u v ∧ v.atlas = a := by
  have hs := start_eq_ok hstart
  rw [link_of_start hstart, finishAfter_phase hs.phase]
  constructor
  · intro h
    split at h
    · rename_i t hhierarchy
      obtain ⟨-, ht, htphase⟩ := phase_of_ok (r := .hierarchy) rfl hs.valid hs.phase hhierarchy
      rw [finishAfter_phase htphase] at h
      split at h
      · rename_i u hmembers
        obtain ⟨-, hu, huphase⟩ := phase_of_ok (r := .members) rfl ht htphase hmembers
        rw [finishAfter_phase huphase] at h
        split at h
        · rename_i v haccesses
          obtain ⟨-, hv, hvphase⟩ := phase_of_ok (r := .accesses) rfl hu huphase haccesses
          refine ⟨t, u, v, ⟨hhierarchy, hmembers, haccesses⟩, ?_⟩
          exact Except.ok.inj ((if_pos hvphase).symm.trans h)
        · cases h
      · cases h
    · cases h
  · rintro ⟨t, u, v, h, rfl⟩
    obtain ⟨⟨-, htphase⟩, ⟨-, huphase⟩, -, hvphase⟩ := h.valid hs
    simp only [h.hierarchy, finishAfter_phase htphase, h.members, finishAfter_phase huphase,
      h.accesses]
    exact if_pos hvphase

lemma linked_of_link (h : Atlas.link context options files = .ok a) :
    ∃ s t u v, start context options files = .ok s ∧ Linked s t u v ∧ v.atlas = a := by
  rcases hstart : start context options files with e | s
  · rw [Atlas.link, hstart] at h
    cases h
  · obtain ⟨t, u, v, hlinked, ha⟩ := (link_eq_ok hstart).mp h
    exact ⟨s, t, u, v, rfl, hlinked, ha⟩

/-- What the first phase leads to. -/
lemma hierarchy_eq_ok (hs : Started context s)
    (h : hierarchyBody { s with phase := .hierarchy } = .ok () t) :
    KeepsMembers { s with phase := .hierarchy } t ∧
      (∀ c ∈ s.atlas.imported.toList, ClassScope t c ∧ Inherited t c) ∧
      ∀ c ∉ s.atlas.imported.toList,
        (t.atlas.cls c).enclosingClass = none ∧ (t.atlas.cls c).typeParameters = [] := by
  have hbody : Moves KeepsMembers True _ hierarchyBody _ :=
    moves_hierarchyBody (hs.wf.withPhase .hierarchy) hs.valid.nodup hs.valid.imported
      (hs.valid.unenclosed hs.phase) (hs.valid.unlinked hs.phase) fun _ _ _ => trivial
  obtain ⟨hst, hscope, hother⟩ := hbody.of_ok h
  refine ⟨hst, hscope, fun c hc => ⟨(hother c hc).1, (hother c hc).2.trans ?_⟩⟩
  exact (hs.registered.blank c).typeParameters

/-- What the second phase leads to. -/
lemma members_eq_ok {u : Linker} (hs : Started context s)
    (hhierarchy : hierarchyBody { s with phase := .hierarchy } = .ok () t)
    (h : membersBody { t with phase := .members } = .ok () u) :
    Adds Set.univ { t with phase := .members } u ∧
      ∀ c ∈ s.atlas.imported.toList, ClassLinked [] u c ∧ Annotated u c := by
  obtain ⟨-, ht, -⟩ := phase_of_ok (r := .hierarchy) rfl hs.valid hs.phase hhierarchy
  obtain ⟨hst, -⟩ := hierarchy_eq_ok hs hhierarchy
  have hbody : Moves (Adds Set.univ) True _ membersBody _ :=
    moves_membersBody (ht.wf.withPhase .members) ht.nodup ht.imported fun _ _ _ => trivial
  obtain ⟨htu, hlinked⟩ := hbody.of_ok h
  refine ⟨htu, fun c hc => ?_⟩
  have hnone : (t.atlas.cls c).members = [] :=
    (hst.members c).trans (hs.registered.blank c).members
  have hclass := hlinked c (by rwa [hst.steps.frame.imported])
  rwa [hnone] at hclass

/-- What the third phase leads to: only queued code units get accesses, those of one after those of
the other. -/
lemma gathers_of_accesses {v : Linker} (hs : Valid s) (hphase : s.phase = .members)
    (h : accessesBody { s with phase := .accesses } = .ok () v) :
    Completes {m | m ∈ s.pending.map Prod.fst} { s with phase := .accesses } v ∧
      (∀ entry ∈ s.pending, AccessesLinked v entry.1 entry.2) ∧
      v.atlas.accesses.toList = s.pending.flatMap fun e => v.atlas.accessesFrom e.1 := by
  have hqueue := hs.queue hphase
  have hbody : Moves _ True { s with phase := .accesses } accessesBody _ :=
    moves_accessesBody (hs.wf.withPhase .accesses) hqueue.inOrder.nodup hs.units
      (fun entry hentry => (hqueue.entry entry hentry).accesses) fun _ _ _ => trivial
  obtain ⟨hcompletes, hlinked, hlist⟩ := hbody.of_ok h
  refine ⟨hcompletes, hlinked, hlist.trans ?_⟩
  simp [hs.accessless (by simp [hphase])]

lemma accesses_eq_ok {v : Linker} (hs : Valid s) (hphase : s.phase = .members)
    (h : accessesBody { s with phase := .accesses } = .ok () v) :
    Completes Set.univ { s with phase := .accesses } v ∧
      ∀ entry ∈ s.pending, AccessesLinked v entry.1 entry.2 := by
  obtain ⟨hcompletes, hlinked, -⟩ := gathers_of_accesses hs hphase h
  exact ⟨Completes.mono _ _ _ _ (Set.subset_univ _) hcompletes, hlinked⟩

/-- A phase succeeds if all names can be read. -/
lemma body_isOk {r : Request} {p : PhaseStep} (h : r.phase? = some p) (hs : Valid s)
    (hphase : s.phase = p.expected)
    (hread : ∀ n, s.context.Mentions n → Registry.readable n.toList = true) :
    ∃ t, p.body { s with phase := p.next } = .ok () t ∧ Valid t ∧ t.phase = p.next ∧
      t.context = s.context := by
  have hbody := moves_body h hs hphase
  rcases hx : p.body { s with phase := p.next } with ⟨⟨⟩, t⟩ | ⟨e, t⟩
  · obtain ⟨hsteps, hvalid, hnext⟩ := phase_of_ok h hs hphase hx
    exact ⟨t, rfl, hvalid, hnext, hsteps.frame.context⟩
  · obtain ⟨-, ⟨n, hn, hfail⟩, -⟩ := hbody.of_error hx
    rw [hread n hn] at hfail
    cases hfail

/-- All phases succeed if all names can be read. -/
lemma linked_isOk (options : ImportOptions) (files : Files)
    (hread : ∀ n, context.Mentions n → Registry.readable n.toList = true) :
    ∃ s t u v, start context options files = .ok s ∧ Linked s t u v := by
  obtain ⟨s, hstart⟩ := start_isOk options files fun h hh => hread h.name (.header hh)
  have hs := start_eq_ok hstart
  obtain ⟨t, hhierarchy, ht, htphase, htcontext⟩ :=
    body_isOk (r := .hierarchy) rfl hs.valid hs.phase (by rwa [hs.context])
  obtain ⟨u, hmembers, hu, huphase, hucontext⟩ :=
    body_isOk (r := .members) rfl ht htphase (by rwa [htcontext, hs.context])
  obtain ⟨v, haccesses, -⟩ :=
    body_isOk (r := .accesses) rfl hu huphase (by rwa [hucontext, htcontext, hs.context])
  exact ⟨s, t, u, v, hstart, hhierarchy, hmembers, haccesses⟩

/-- **Linking succeeds if all names can be read.** -/
theorem link_isOk (options : ImportOptions) (files : Files)
    (hread : ∀ n, context.Mentions n → Registry.readable n.toList = true) :
    ∃ a, Atlas.link context options files = .ok a := by
  obtain ⟨s, t, u, v, hstart, h⟩ := linked_isOk options files hread
  exact ⟨v.atlas, (link_eq_ok hstart).mpr ⟨t, u, v, h, rfl⟩⟩

/-- An atlas that is handed out for a context: some run of a linker for it ended with this atlas. -/
def Completed (context : ImportContext) (a : Atlas) : Prop :=
  ∃ options files s rs, start context options files = .ok s ∧ (s.run rs).2.finish = .ok a

lemma finish_eq_ok (h : s.finish = .ok a) : s.atlas = a := by
  rw [finish] at h
  split_ifs at h
  exact Except.ok.inj h

lemma Completed.exists_valid (h : Completed context a) : ∃ s, Valid s ∧ s.atlas = a := by
  obtain ⟨options, files, s, rs, hstart, hfinish⟩ := h
  exact ⟨(s.run rs).2, run_valid (start_eq_ok hstart).valid rs, finish_eq_ok hfinish⟩

/-- The run in which all phases succeed. -/
lemma run_of_linked {u v : Linker} (hs : Started context s) (h : Linked s t u v) :
    s.run [.hierarchy, .members, .accesses] = ([.ok none, .ok none, .ok none], v) ∧
      v.phase = .accesses := by
  obtain ⟨⟨-, htphase⟩, ⟨-, huphase⟩, -, hvphase⟩ := h.valid hs
  refine ⟨?_, hvphase⟩
  simp only [run, perform_of_phase (r := .hierarchy) rfl hs.phase, h.hierarchy,
    perform_of_phase (r := .members) rfl htphase, h.members,
    perform_of_phase (r := .accesses) rfl huphase, h.accesses]

/-- Linking all phases in order is one of the runs. -/
theorem completed_of_link (h : Atlas.link context options files = .ok a) :
    Completed context a := by
  obtain ⟨s, t, u, v, hstart, hlinked, rfl⟩ := linked_of_link h
  obtain ⟨hrun, hphase⟩ := run_of_linked (start_eq_ok hstart) hlinked
  refine ⟨options, files, s, [.hierarchy, .members, .accesses], hstart, ?_⟩
  rw [hrun]
  exact if_pos hphase

end Linker

/-! ## Batches -/

/-- All names of a batch can be read. -/
def Batch.Readable (b : Batch) : Prop :=
  ∀ n ∈ b.names, Registry.readable n.toList = true

instance (b : Batch) : Decidable b.Readable :=
  inferInstanceAs (Decidable (∀ n ∈ b.names, Registry.readable n.toList = true))

lemma Batch.Readable.mentions {b : Batch} (h : b.Readable) (n : String)
    (hn : b.context.Mentions n) : Registry.readable n.toList = true :=
  h n (Batch.mem_names_of_mentions hn)

namespace Linker

lemma exists_linked (b : Batch) (hread : b.Readable) :
    ∃ s t u v, start b.context {} .none = .ok s ∧ Linked s t u v :=
  linked_isOk {} .none hread.mentions

/-- A batch can be linked if all its names can be read. -/
lemma exists_link (b : Batch) (hread : b.Readable) :
    ∃ a, Atlas.link b.context {} .none = .ok a ∧ Completed b.context a := by
  obtain ⟨a, ha⟩ := link_isOk {} .none hread.mentions
  exact ⟨a, ha, completed_of_link ha⟩

end Linker

end ClassAtlas
