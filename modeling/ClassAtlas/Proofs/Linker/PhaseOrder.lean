import ClassAtlas.Batch
import ClassAtlas.Proofs.Linker.Runs

/-!
# The order of phases

A linker hands its atlas out once every phase was started, in order.  That a phase was started does
not mean that it succeeded: the linker counts a phase as reached before its work is done.

* `remaining` — the phases that are still to be started.
* `finish_isOk_iff_phases_started` — **which runs end with an atlas**.
* `finish_isOk_after_failure` — a run that ends with an atlas although its first phase failed.
-/

namespace ClassAtlas.Linker

variable {s : Linker}

/-- The phases that are still to be started. -/
def remaining : Phase → List Request
  | .created => [.hierarchy, .members, .accesses]
  | .hierarchy => [.members, .accesses]
  | .members => [.accesses]
  | .accesses => []

lemma remaining_expected {r : Request} {p : PhaseStep} (h : r.phase? = some p) :
    remaining p.expected = r :: remaining p.next := by
  cases r with
  | cls name => cases h
  | _ =>
      cases h
      rfl

lemma head?_remaining_ne_cls (q : Phase) (name : String) :
    (remaining q).head? ≠ some (.cls name) := by
  cases q <;> simp [remaining]

lemma remaining_eq_nil {q : Phase} : remaining q = [] ↔ q = .accesses := by
  cases q <;> simp [remaining]

/-- A request and the answer it got. -/
abbrev Exchange :=
  Request × Except ModelError (Option ClassId)

/-- The requests of a run with the answers they got. -/
def exchanges (s : Linker) (rs : List Request) : List Exchange :=
  rs.zip (s.run rs).1

/-- The phases were started in a row of exchanges, in this order: each was carried out or met an
invalid type name. -/
def StartedIn (phases : List Request) (l : List Exchange) : Prop :=
  ∃ started : List Exchange, started.Sublist l ∧ started.map Prod.fst = phases ∧
    ∀ e ∈ started, Carried e.2

lemma startedIn_nil (l : List Exchange) : StartedIn [] l :=
  ⟨[], List.nil_sublist l, rfl, by simp⟩

lemma startedIn_cons_nil {r : Request} {phases : List Request} : ¬ StartedIn (r :: phases) [] := by
  rintro ⟨started, hsub, hmap, -⟩
  rw [List.sublist_nil.mp hsub] at hmap
  cases hmap

lemma not_carried_phaseOrder {expected actual : Phase} :
    ¬ Carried (.error (.phaseOrder expected actual)) := by
  rintro (h | ⟨name, h⟩) <;> cases h

/-- An exchange in which the first of the phases was started. -/
lemma startedIn_cons_of_carried {phases : List Request} {e : Exchange} {l : List Exchange}
    (he : Carried e.2) : StartedIn (e.1 :: phases) (e :: l) ↔ StartedIn phases l := by
  constructor
  · rintro ⟨started, hsub, hmap, hall⟩
    obtain ⟨first, rest, rfl, -, hrest⟩ := List.map_eq_cons_iff.mp hmap
    exact ⟨rest, hsub.of_cons_cons, hrest, fun x hx => hall x (List.mem_cons_of_mem _ hx)⟩
  · rintro ⟨started, hsub, rfl, hall⟩
    exact ⟨e :: started, hsub.cons_cons e, rfl, List.forall_mem_cons.mpr ⟨he, hall⟩⟩

/-- An exchange about something else. -/
lemma startedIn_cons_of_ne {phases : List Request} {e : Exchange} {l : List Exchange}
    (h : phases.head? ≠ some e.1 ∨ ¬ Carried e.2) :
    StartedIn phases (e :: l) ↔ StartedIn phases l := by
  constructor
  · rintro ⟨started, hsub, rfl, hall⟩
    cases hsub with
    | cons _ hsub => exact ⟨started, hsub, rfl, hall⟩
    | cons_cons _ hsub =>
        rcases h with h | h
        · exact absurd rfl h
        · exact absurd (hall e (List.mem_cons_self ..)) h
  · rintro ⟨started, hsub, hmap, hall⟩
    exact ⟨started, hsub.cons e, hmap, hall⟩

/-- A linker reaches the last phase if and only if the remaining ones are started. -/
theorem phase_run_eq_accesses (hs : Valid s) (rs : List Request) :
    (s.run rs).2.phase = .accesses ↔ StartedIn (remaining s.phase) (s.exchanges rs) := by
  induction rs generalizing s with
  | nil =>
      rw [exchanges, List.zip_nil_left]
      rcases hremaining : remaining s.phase with _ | ⟨r, rest⟩
      · exact iff_of_true (remaining_eq_nil.mp hremaining) (startedIn_nil _)
      · refine iff_of_false (fun hphase => ?_) startedIn_cons_nil
        rw [run] at hphase
        rw [remaining_eq_nil.mpr hphase] at hremaining
        cases hremaining
  | cons r rs ih =>
      have hvalid := (perform_valid hs r).1
      change ((s.perform r).2.run rs).2.phase = _ ↔
        StartedIn _ ((r, (s.perform r).1) :: (s.perform r).2.exchanges rs)
      rw [ih hvalid]
      rcases hr : r.phase? with _ | p
      · obtain ⟨name, rfl⟩ := Request.eq_cls hr
        rw [(perform_cls s name).phase]
        exact (startedIn_cons_of_ne (Or.inl (head?_remaining_ne_cls _ name))).symm
      · by_cases hphase : s.phase = p.expected
        · obtain ⟨-, -, hnext, hcarried⟩ := perform_started hr hs hphase
          rw [hnext, hphase, remaining_expected hr]
          exact (startedIn_cons_of_carried (e := (r, (s.perform r).1)) hcarried).symm
        · rw [perform_of_ne hr hphase]
          exact (startedIn_cons_of_ne (Or.inr not_carried_phaseOrder)).symm

lemma finish_isOk_iff : (∃ a, s.finish = .ok a) ↔ s.phase = .accesses := by
  unfold finish
  split_ifs with h <;> simp [h]

/-- Phases that were started and did not fail succeeded. -/
lemma StartedIn.sublist {phases : List Request} {l : List Exchange} (h : StartedIn phases l)
    (hphases : ∀ r ∈ phases, r.phase?.isSome)
    (hok : ∀ e ∈ l, e.1.phase?.isSome → ∀ name, e.2 ≠ .error (.invalidTypeName name)) :
    (phases.map fun r => ((r, .ok none) : Exchange)).Sublist l := by
  obtain ⟨started, hsub, rfl, hall⟩ := h
  have hstarted : ∀ e ∈ started, (e.1, .ok none) = e := by
    rintro ⟨r, answer⟩ he
    rcases hall _ he with rfl | ⟨name, rfl⟩
    · rfl
    · exact absurd rfl (hok _ (hsub.subset he) (hphases r (List.mem_map_of_mem he)) name)
  have hmap : started.map (fun e => (e.1, .ok none)) = started :=
    (List.map_congr_left hstarted).trans (List.map_id' _)
  simpa only [List.map_map, Function.comp_def, hmap] using hsub

/-- **A run ends with an atlas if and only if every phase was started in it, in order.**  A phase
that was started either succeeded or failed half-way at an invalid type name; if none failed, all
of them succeeded, in order. -/
theorem finish_isOk_iff_phases_started {context : ImportContext} {options : ImportOptions}
    {files : Files} (hstart : start context options files = .ok s) (rs : List Request) :
    ((∃ a, (s.run rs).2.finish = .ok a) ↔
      StartedIn [.hierarchy, .members, .accesses] (s.exchanges rs)) ∧
    ((∃ a, (s.run rs).2.finish = .ok a) →
      (∀ e ∈ s.exchanges rs, e.1.phase?.isSome → ∀ name, e.2 ≠ .error (.invalidTypeName name)) →
      [(.hierarchy, .ok none), (.members, .ok none), (.accesses, .ok none)].Sublist
        (s.exchanges rs)) := by
  have hs := start_eq_ok hstart
  have hfinish : (∃ a, (s.run rs).2.finish = .ok a) ↔
      StartedIn [.hierarchy, .members, .accesses] (s.exchanges rs) := by
    rw [finish_isOk_iff, phase_run_eq_accesses hs.valid, hs.phase, remaining]
  refine ⟨hfinish, fun hok hsucceeds => (hfinish.mp hok).sublist ?_ hsucceeds⟩
  rintro r hr
  fin_cases hr <;> rfl

/-- A class with a superclass, and nothing else. -/
def subclassBatch : Batch :=
  ⟨[{ name := "a.B", superclass := some (.cls "a.A") }]⟩

/-- All phases succeed on a batch whose names can be read. -/
theorem finish_isOk_iff_phases_started_subclassBatch :
    ∃ s, start subclassBatch.context {} .none = .ok s ∧
      (∃ a, (s.run [.hierarchy, .members, .accesses]).2.finish = .ok a) ∧
      [(.hierarchy, .ok none), (.members, .ok none), (.accesses, .ok none)].Sublist
        (s.exchanges [.hierarchy, .members, .accesses]) := by
  obtain ⟨s, t, u, v, hstart, hlinked⟩ := exists_linked subclassBatch (by decide +kernel)
  obtain ⟨hrun, hphase⟩ := run_of_linked (start_eq_ok hstart) hlinked
  have hfinish : ∃ a, (s.run [.hierarchy, .members, .accesses]).2.finish = .ok a := by
    rwa [hrun, finish_isOk_iff]
  refine ⟨s, hstart, hfinish, (finish_isOk_iff_phases_started hstart _).2 hfinish ?_⟩
  rw [exchanges, hrun]
  simp

/-- A class that is enclosed by a class whose name cannot be read. -/
def misplacedBatch : Batch :=
  ⟨[{ name := "a.A", enclosingClass := some "" }]⟩

/-- All phases in order lead to the last one, whatever they answer. -/
lemma phase_run_phases (hs : Valid s) (hphase : s.phase = .created) :
    (s.run [.hierarchy, .members, .accesses]).2.phase = .accesses := by
  obtain ⟨-, ht, htphase, -⟩ := perform_started (r := .hierarchy) rfl hs hphase
  obtain ⟨-, hu, huphase, -⟩ := perform_started (r := .members) rfl ht htphase
  exact (perform_started (r := .accesses) rfl hu huphase).2.2.1

/-- The hierarchy of a class cannot be linked if the name of the class around it is empty. -/
lemma perform_hierarchy_of_misplaced (hs : Started misplacedBatch.context s) :
    ∃ name, (s.perform .hierarchy).1 = .error (.invalidTypeName name) := by
  obtain ⟨-, -, -, hcarried⟩ := perform_started (r := .hierarchy) rfl hs.valid hs.phase
  refine hcarried.resolve_left fun hok => ?_
  rw [perform_of_phase (r := .hierarchy) rfl hs.phase] at hok
  dsimp only at hok
  rcases hbody : hierarchyBody { s with phase := .hierarchy } with ⟨_, t⟩ | ⟨e, t⟩
  · obtain ⟨hst, hscope, -⟩ := hierarchy_eq_ok hs hbody
    have hwf := hst.steps.wf (hs.wf.withPhase .hierarchy)
    obtain ⟨c, hc, hknown⟩ := hs.hasClass ⟨"a.A", .cls, .none, none⟩
      (by rw [hs.context]; exact List.mem_cons_self ..)
    have hname : (t.atlas.cls c).name = "a.A" :=
      hwf.named.name_eq (d := .object "a.A") (by decide +kernel) (hst.steps.frame.names _ _ hknown)
    have henclosing := (hscope c hc).1.enclosing
    rw [hst.steps.frame.context, hs.context, hname,
      show misplacedBatch.context.enclosingClass "a.A" = some "" by decide +kernel] at henclosing
    obtain ⟨e, -, hempty⟩ := henclosing.exists_right
    exact Registry.not_denotes_nil (hwf.named.denotes hempty)
  · rw [hbody] at hok
    cases hok

/-- **A run can end with an atlas although a phase failed in it** and never succeeded. -/
theorem finish_isOk_after_failure :
    ∃ s, start misplacedBatch.context {} .none = .ok s ∧
      (∃ a, (s.run [.hierarchy, .members, .accesses]).2.finish = .ok a) ∧
      (∃ name, (.hierarchy, .error (.invalidTypeName name)) ∈
        s.exchanges [.hierarchy, .members, .accesses]) ∧
      ¬ [(.hierarchy, .ok none), (.members, .ok none), (.accesses, .ok none)].Sublist
        (s.exchanges [.hierarchy, .members, .accesses]) := by
  have hread : ∀ h ∈ misplacedBatch.context.headers, Registry.readable h.name.toList = true := by
    decide +kernel
  obtain ⟨s, hstart⟩ := start_isOk {} .none hread
  have hs := start_eq_ok hstart
  obtain ⟨name, hname⟩ := perform_hierarchy_of_misplaced hs
  refine ⟨s, hstart, finish_isOk_iff.mpr (phase_run_phases hs.valid hs.phase), ⟨name, ?_⟩,
    fun hsub => ?_⟩
  · rw [exchanges, run, hname]
    exact List.mem_cons_self ..
  · have hmem := hsub.subset (List.mem_cons_self ..)
    simp [exchanges, run, hname] at hmem

end ClassAtlas.Linker
