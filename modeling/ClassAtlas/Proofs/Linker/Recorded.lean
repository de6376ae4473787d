import ClassAtlas.Proofs.Linker.Runs

/-!
# Classes with and without a record

Only classes with a record are ever filled in.  What a header says of a class is set when linking
starts and never changes.

* `Recorded` — classes without a record are stubs, and the others have what the first of their
  headers says.
* `Edit.recorded` — one edit keeps that; `run_recorded`, `Completed.recorded` — **it holds of every
  atlas that is handed out**.
-/

namespace ClassAtlas.Linker

variable {files : Files} {options : ImportOptions} {headers : List Record.Header}
  {context : ImportContext} {a : Atlas} {s t : Linker}

/-- What is known of the classes of an atlas for some headers. -/
structure Recorded (files : Files) (options : ImportOptions) (headers : List Record.Header)
    (a : Atlas) : Prop where
  stub : ∀ c, (a.cls c).imported = false → (a.cls c).Stub
  component : ∀ c, (a.cls c).isArray = false → (a.cls c).component = none
  present : ∀ h ∈ headers, ∃ c, (a.cls c).imported = true ∧
    Registry.Denotes h.name.toList (a.cls c).type
  headed : ∀ c, (a.cls c).imported = true → ∃ h,
    FirstOf (fun h => Registry.Denotes h.name.toList (a.cls c).type) headers h ∧
      Headed files options h (a.cls c)

lemma Registers.recorded (h : Registers files options headers a) :
    Recorded files options headers a := by
  refine ⟨fun c _ => (h.blank c).toStub, fun c => (h.blank c).component, fun r hr => ?_, h.headed⟩
  obtain ⟨c, hc, hname⟩ := h.hasClass r hr
  exact ⟨c, (h.mem_imported c).mp hc, h.named.denotes hname⟩

/-- Classes without a record are not filled in: at most they get subclasses. -/
lemma Edit.stub (h : Edit s t) {c : ClassId} (himported : (s.atlas.cls c).imported = false)
    (hc : (s.atlas.cls c).Stub) : (t.atlas.cls c).Stub := by
  have hne : ∀ {id : ClassId}, (s.atlas.cls id).imported = true → c ≠ id := by
    rintro id hid rfl
    rw [himported] at hid
    cases hid
  cases h with
  | grow h =>
      rcases h.atlas.cls_eq_or_bare c with heq | ⟨-, hbare⟩
      · rwa [heq]
      · exact hbare.toStub
  | cls id change hid _ _ =>
      rwa [Atlas.cls_modifyClass, if_neg fun heq => hne hid heq.1]
  | supertypes id superclass interfaces hid _ =>
      rw [ClassNode.stub_iff] at hc ⊢
      rw [keep_setSupertypes_of_ne ClassNode.content (fun _ _ => rfl) (hne hid)]
      exact hc
  | addMember make howner _ _ =>
      rwa [Atlas.cls_addMember, if_neg fun heq => hne (howner _) heq.1]
  | bounds | member | access | pending => exact hc

/-- At positions that were not taken there is nothing, or a class that was added as a stub. -/
lemma Edit.bare_of_ge (h : Edit s t) {c : ClassId} (hge : s.atlas.classes.size ≤ c.index) :
    (t.atlas.cls c).Bare := by
  have hdefault : ∀ {a : Atlas}, a.classes.size = s.atlas.classes.size → (a.cls c).Bare := by
    intro a hsize
    rw [Atlas.cls_eq_default (hsize.trans_le hge)]
    exact ClassNode.bare_default
  cases h with
  | grow h => exact h.atlas.bare c hge
  | cls => exact hdefault (Atlas.size_modifyClass ..)
  | supertypes => exact hdefault (setSupertypes_frame ..).1
  | addMember => exact hdefault (Atlas.size_modifyClass ..)
  | bounds | member | access | pending => exact hdefault rfl

/-- An edit keeps what is known of all classes. -/
theorem Edit.recorded (h : Edit s t) (hs : Recorded files options headers s.atlas) :
    Recorded files options headers t.atlas := by
  have hframe := h.frame
  refine ⟨fun c hc => ?_, fun c hc => ?_, fun r hr => ?_, fun c hc => ?_⟩
  · rw [hframe.isImported] at hc
    exact h.stub hc (hs.stub c hc)
  · rcases lt_or_ge c.index s.atlas.classes.size with hlt | hge
    · have hcomponent : (t.atlas.cls c).component = (s.atlas.cls c).component :=
        congrArg (·.1.2.2) (hframe.heading c hlt)
      rw [ClassNode.isArray, hframe.type c hlt] at hc
      exact hcomponent.trans (hs.component c hc)
    · exact (h.bare_of_ge hge).component hc
  · obtain ⟨c, hc, hdenotes⟩ := hs.present r hr
    refine ⟨c, (hframe.isImported c).trans hc, ?_⟩
    rwa [hframe.type c (Atlas.lt_of_imported hc)]
  · rw [hframe.isImported] at hc
    have hheading := hframe.heading c (Atlas.lt_of_imported hc)
    obtain ⟨r, hfirst, hkind, hmodifiers, hsource⟩ := hs.headed c hc
    rw [hframe.type c (Atlas.lt_of_imported hc)]
    refine ⟨r, hfirst, ?_, ?_, ?_⟩
    · exact (congrArg (·.2.2.1) hheading).trans hkind
    · exact (congrArg (·.2.2.2.1) hheading).trans hmodifiers
    · exact (congrArg (·.2.2.2.2) hheading).trans hsource

/-- What is known of the classes holds during every run. -/
theorem run_recorded (hstart : start context options files = .ok s) (rs : List Request) :
    Recorded files options context.headers (s.run rs).2.atlas := by
  obtain ⟨hs, hregisters⟩ := start_registers hstart
  exact run_invariant (P := fun u => Recorded files options context.headers u.atlas)
    (fun _ _ h => h) (fun _ _ _ hedit h => hedit.recorded h) hs.valid hregisters.recorded rs

lemma recorded_of_link (h : Atlas.link context options files = .ok a) :
    Recorded files options context.headers a := by
  obtain ⟨s, t, u, v, hstart, hlinked, rfl⟩ := linked_of_link h
  have hrecorded := run_recorded hstart [.hierarchy, .members, .accesses]
  rwa [(run_of_linked (start_eq_ok hstart) hlinked).1] at hrecorded

theorem Completed.recorded (h : Completed context a) :
    ∃ files options, Recorded files options context.headers a := by
  obtain ⟨options, files, s, rs, hstart, hfinish⟩ := h
  exact ⟨files, options, finish_eq_ok hfinish ▸ run_recorded hstart rs⟩

end ClassAtlas.Linker
