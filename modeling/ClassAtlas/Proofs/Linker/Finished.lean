import ClassAtlas.Proofs.Linker.Assignability

/-!
# When all records are linked

The phases link a class piece by piece.  This file puts together what is known of it at the end: its
scope, its supertypes, its annotations, and its members with their accesses, each compared with the
record that it comes from.

* `UnitFinished`, `ClassFinished` — a code unit and a class are all that their records say.
* `Finished` — every imported class is, and every other class is a stub.
* `finished_of_link` — **this holds when linking is done**.
* `exists_unitFinished` — a batch whose names can be read is linked, and so is a code unit on
  record.
-/

namespace ClassAtlas.Linker

variable {context : ImportContext} {options : ImportOptions} {files : Files} {a : Atlas}
  {s t u v : Linker} {c : ClassId} {kind : CodeKind} {r : Record.CodeUnit} {m : MemberId}

/-- A code unit is what its record says, and has the accesses on record for its key. -/
structure UnitFinished (t : Linker) (owner : ClassId) (kind : CodeKind) (r : Record.CodeUnit)
    (m : MemberId) : Prop where
  name : (t.atlas.member m).name = r.name
  modifiers : (t.atlas.member m).modifiers = r.modifiers
  varName : List.Forall₂ (fun p v => (t.atlas.typeVar v).name = p.name) r.typeParameters
    (t.atlas.member m).typeParameters
  bounds : List.Forall₂ (BoundsLinked t { cls := owner, codeUnit := some m }) r.typeParameters
    (t.atlas.member m).typeParameters
  annotations : List.Forall₂ (Record.Annot.Describes (Known t) (.member m)) r.annotations
    (t.atlas.member m).annotations
  unit : ∃ unit type raw, UnitBody t owner kind r m unit type raw
  accesses : AccessesLinked t m ⟨(t.atlas.cls owner).name, r.name, (t.atlas.member m).descriptor⟩

/-- A class is all that its records say: after its fields it has its code units. -/
structure ClassFinished (t : Linker) (c : ClassId) : Prop extends ClassCompleted t c where
  members : ∃ fields units, (t.atlas.cls c).members = fields ++ units ∧
    List.Forall₂ (FieldLinked t c) (t.context.fields (t.atlas.cls c).name) fields ∧
    List.Forall₂ (fun e m => UnitFinished t c e.1 e.2 m)
      (t.context.unitRecords (t.atlas.cls c).name) units

/-- All records are linked. -/
structure Finished (t : Linker) : Prop where
  wf : t.WF
  nonempty : 0 < t.atlas.classes.size
  topmost : (t.atlas.cls Atlas.object).type = .object objectClassName
  cls : ∀ c, (t.atlas.cls c).imported = true → ClassFinished t c
  stub : ∀ c, (t.atlas.cls c).imported = false → (t.atlas.cls c).Stub

/-! ## Linking accesses -/

/-- Linking accesses leaves a field as it is. -/
lemma FieldLinked.completes {A : Set MemberId} {p : Phase} {f : Record.Field}
    (h : FieldLinked t c f m) (ht : t.WF) (hc : c.index < t.atlas.classes.size)
    (htu : Completes A { t with phase := p } u) : FieldLinked u c f m := by
  obtain ⟨type, raw, hbody, -⟩ := h.body
  exact h.keeps ht hc ((Frame.withPhase t p).trans htu.steps.frame) (htu.keeps _)
    ((htu.unit m).eq_of_field hbody)

/-- Linking accesses completes a code unit. -/
lemma UnitLinked.finished {A : Set MemberId} {p : Phase} (h : UnitLinked t c kind r m) (ht : t.WF)
    (hc : c.index < t.atlas.classes.size) (htu : Completes A { t with phase := p } u)
    (haccesses : AccessesLinked u m
      ⟨(t.atlas.cls c).name, r.name, (t.atlas.member m).descriptor⟩) :
    UnitFinished u c kind r m := by
  have hframe : Frame t u := (Frame.withPhase t p).trans htu.steps.frame
  have hkeeps : Scope.Keeps { cls := c, codeUnit := some m } t u := htu.keeps _
  have hsame : SameUnit (t.atlas.member m) (u.atlas.member m) := htu.unit m
  have hvar : ∀ v ∈ (t.atlas.member m).typeParameters, u.atlas.typeVar v = t.atlas.typeVar v :=
    fun v hv => htu.typeVar v (ht.closed.unitParameters m v hv)
  obtain ⟨unit, type, raw, hunit⟩ := h.unit
  refine ⟨hsame.name.trans h.name, hsame.modifiers.trans h.modifiers, ?_, ?_, ?_,
    ⟨_, type, raw, hunit.keeps ht hc hframe hkeeps (hsame.body hunit.body)
      hsame.descriptor hsame.fullName⟩, ?_⟩
  · rw [hsame.typeParameters]
    exact h.varName.imp_mem fun p _ v hv hp => by rw [hvar v hv]; exact hp
  · rw [hsame.typeParameters]
    exact h.bounds.imp_mem fun p _ v hv hp => hp.of_same ht hframe hkeeps.same (hvar v hv)
  · rw [hsame.annotations]
    exact h.annotations.imp fun _ _ hx => hx.imp hframe.names
  · rw [hframe.className hc, hsame.descriptor]
    exact haccesses

/-! ## All phases -/

/-- An imported class is all that its records say when all phases are done. -/
lemma Linked.classFinished (h : Linked s t u v) (hs : Started context s)
    (hc : (v.atlas.cls c).imported = true) : ClassFinished v c := by
  obtain ⟨-, -, hcompleted⟩ := h.classCompleted hs hc
  obtain ⟨-, ⟨hu, huphase⟩, -⟩ := h.valid hs
  obtain ⟨hst, -⟩ := hierarchy_eq_ok hs h.hierarchy
  obtain ⟨htu, hlinked⟩ := members_eq_ok hs h.hierarchy h.members
  obtain ⟨huv, haccesses⟩ := accesses_eq_ok hu huphase h.accesses
  have hframe : Frame s u := ((Frame.withPhase s .hierarchy).trans hst.steps.frame).trans
    ((Frame.withPhase t .members).trans htu.steps.frame)
  have hframe' : Frame u v := (Frame.withPhase u .accesses).trans huv.steps.frame
  have hmem : c ∈ s.atlas.imported.toList := by
    rw [hs.registered.mem_imported, ← (hframe.trans hframe').isImported]
    exact hc
  have hlt : c.index < u.atlas.classes.size := (hs.registered.lt hmem).trans_le hframe.classesSize
  obtain ⟨⟨fields, units, hmembers, hfields, hunits⟩, -⟩ := hlinked c hmem
  refine ⟨hcompleted, fields, units, (huv.members c).trans hmembers, ?_, ?_⟩
  · rw [hframe'.context, hframe'.className hlt]
    exact hfields.imp fun _ _ hfield => hfield.completes hu.wf hlt huv
  · rw [hframe'.context, hframe'.className hlt]
    exact hunits.imp fun _ _ hunit => hunit.finished hu.wf hlt huv (haccesses _ hunit.queued)

/-- **When linking is done, all records are linked.** -/
theorem finished_of_link (h : Atlas.link context options files = .ok a) :
    ∃ t, t.atlas = a ∧ t.context = context ∧ Finished t := by
  have hrecorded := recorded_of_link h
  obtain ⟨s, t, u, v, hstart, hlinked, rfl⟩ := linked_of_link h
  have hs := start_eq_ok hstart
  obtain ⟨-, ⟨hu, huphase⟩, hv, -⟩ := hlinked.valid hs
  obtain ⟨hst, -⟩ := hierarchy_eq_ok hs hlinked.hierarchy
  obtain ⟨htu, -⟩ := members_eq_ok hs hlinked.hierarchy hlinked.members
  obtain ⟨huv, -⟩ := accesses_eq_ok hu huphase hlinked.accesses
  have hframe : Frame s v := (((Frame.withPhase s .hierarchy).trans hst.steps.frame).trans
    ((Frame.withPhase t .members).trans htu.steps.frame)).trans
      ((Frame.withPhase u .accesses).trans huv.steps.frame)
  refine ⟨v, rfl, hframe.context.trans hs.context, hv.wf,
    hs.registered.nonempty.trans_le hframe.classesSize, ?_,
    fun c hc => hlinked.classFinished hs hc, hrecorded.stub⟩
  exact (hframe.type Atlas.object hs.registered.nonempty).trans hs.registered.topmost

/-! ## Code units -/

/-- A type that is the name of a class erases to the class that the name denotes. -/
lemma Erases.classType_eq {scope : Scope} {name : String} {type : TypeRef} {raw : ClassId}
    {d : Descriptor} (h : Erases t scope (.cls name) type raw) (ht : t.WF)
    (hd : Registry.Denotes name.toList d) : (t.atlas.cls raw).type = d := by
  have hraw := h.raw
  cases h.links with
  | cls hname =>
      rw [hraw]
      exact (ht.named.denotes hname).unique hd

/-- Parameters whose types are names of classes are of the classes that the names denote. -/
lemma map_raw_of_paramLinked {scope : Scope} {records : List Record.Param}
    {parameters : List Param} {types : List Descriptor} (ht : t.WF)
    (h : List.Forall₂ (ParamLinked t scope m) records parameters)
    (hrecords : List.Forall₂ (fun (p : Record.Param) d => ∃ name : String, p.type = .cls name ∧
      Registry.Denotes name.toList d) records types) :
    parameters.map (fun p => (t.atlas.cls p.raw).type) = types := by
  induction hrecords generalizing parameters with
  | nil => rw [List.forall₂_nil_left_iff.mp h, List.map_nil]
  | cons hname _ ih =>
      obtain ⟨name, htype, hd⟩ := hname
      obtain ⟨p, rest, hp, hrest, rfl⟩ := List.forall₂_cons_left_iff.mp h
      have herases := hp.toErases
      rw [htype] at herases
      rw [List.map_cons, ih hrest, herases.classType_eq ht hd]

lemma UnitFinished.codeKind (h : UnitFinished t c kind r m) :
    (t.atlas.member m).codeKind? = some kind := by
  obtain ⟨unit, type, raw, hunit⟩ := h.unit
  rw [Member.codeKind?, hunit.body]

lemma UnitFinished.parameters (h : UnitFinished t c kind r m) :
    List.Forall₂ (ParamLinked t { cls := c, codeUnit := some m } m) r.parameters
      (t.atlas.member m).parameters := by
  obtain ⟨unit, type, raw, hunit⟩ := h.unit
  rw [Member.parameters, Member.codeUnit?, hunit.body]
  exact hunit.parameters

lemma UnitFinished.rawParameter_lt (h : UnitFinished t c kind r m) (ht : t.WF) {p : ClassId}
    (hp : p ∈ (t.atlas.member m).rawParameters) : p.index < t.atlas.classes.size := by
  obtain ⟨q, hq, rfl⟩ := List.mem_map.mp hp
  obtain ⟨_, -, hlinked⟩ := h.parameters.exists_left hq
  exact hlinked.toErases.lt ht

lemma UnitFinished.map_rawParameters (h : UnitFinished t c kind r m) (ht : t.WF)
    {types : List Descriptor}
    (hr : List.Forall₂ (fun (p : Record.Param) d => ∃ name : String, p.type = .cls name ∧
      Registry.Denotes name.toList d) r.parameters types) :
    (t.atlas.member m).rawParameters.map (fun p => (t.atlas.cls p).type) = types := by
  rw [Member.rawParameters, List.map_map]
  exact map_raw_of_paramLinked ht h.parameters hr

/-- Code units whose parameters are of the same types have the same raw parameters, however the
types are spelled. -/
lemma UnitFinished.rawParameters_eq {kind' : CodeKind} {r' : Record.CodeUnit} {m' : MemberId}
    (h : UnitFinished t c kind r m) (h' : UnitFinished t c kind' r' m') (ht : t.WF)
    {types : List Descriptor}
    (hr : List.Forall₂ (fun (p : Record.Param) d => ∃ name : String, p.type = .cls name ∧
      Registry.Denotes name.toList d) r.parameters types)
    (hr' : List.Forall₂ (fun (p : Record.Param) d => ∃ name : String, p.type = .cls name ∧
      Registry.Denotes name.toList d) r'.parameters types) :
    (t.atlas.member m').rawParameters = (t.atlas.member m).rawParameters := by
  have htypes := (h'.map_rawParameters ht hr').trans (h.map_rawParameters ht hr).symm
  rw [← List.forall₂_eq_eq_eq, List.forall₂_map_left_iff, List.forall₂_map_right_iff] at htypes
  rw [← List.forall₂_eq_eq_eq]
  exact htypes.imp_mem fun p hp q hq htype => ht.named.name_inj (h'.rawParameter_lt ht hp)
    (h.rawParameter_lt ht hq) (congrArg Descriptor.name htype)

/-- A code unit without parameters is linked without parameters. -/
lemma UnitFinished.rawParameters_eq_nil (h : UnitFinished t c kind r m) (hr : r.parameters = []) :
    (t.atlas.member m).codeKind? = some kind ∧ (t.atlas.member m).rawParameters = [] := by
  have hparameters := h.parameters
  rw [hr, List.forall₂_nil_left_iff] at hparameters
  exact ⟨h.codeKind, by rw [Member.rawParameters, hparameters, List.map_nil]⟩

/-- The only access on record for a code unit is linked. -/
lemma UnitFinished.exists_access {descriptor : String} {use : Record.Use}
    (h : UnitFinished t c kind r m) (hr : r.descriptor = some descriptor)
    (huse : t.context.uses ⟨(t.atlas.cls c).name, r.name, descriptor⟩ = [use]) :
    ∃ (i : AccessId) (x : Use), i.index < t.atlas.accesses.size ∧
      t.atlas.access i = accessOf m (t.atlas.member m).fullName x i ∧ LinkedUse t use x := by
  obtain ⟨unit, type, raw, hunit⟩ := h.unit
  have hdescriptor := hunit.descriptor
  rw [hr, Option.getD_some] at hdescriptor
  obtain ⟨uses, huses, haccesses⟩ := h.accesses
  rw [hdescriptor, huse] at huses
  obtain ⟨x, rest, hx, hnil, rfl⟩ := List.forall₂_cons_left_iff.mp huses
  rw [List.forall₂_nil_left_iff.mp hnil] at haccesses
  -- of one use, the first is kept
  obtain ⟨kept, hkept, -⟩ : ∃ kept ∈ distinctUses [x],
      (kept.1, kept.2.1.fullName, kept.2.2) = (x.1, x.2.1.fullName, x.2.2) :=
    exists_mem_distinctBy (List.mem_singleton_self x)
  obtain rfl := List.mem_singleton.mp (mem_of_mem_distinctBy hkept)
  obtain ⟨i, -, hi, haccess⟩ := haccesses.exists_right hkept
  exact ⟨i, kept, hi, haccess, hx⟩

/-- A code unit on record is linked. -/
lemma Finished.exists_unit {rc : Record.Class} (h : Finished t)
    (hc : (t.atlas.cls c).imported = true) (hctype : (t.atlas.cls c).type = .object rc.name)
    (hr : (kind, r) ∈ t.context.unitRecords rc.name) :
    ∃ m ∈ (t.atlas.cls c).members, UnitFinished t c kind r m := by
  obtain ⟨-, fields, units, hmembers, -, hunits⟩ := h.cls c hc
  rw [ClassNode.name, hctype] at hunits
  obtain ⟨m, hm, hunit⟩ := hunits.exists_right hr
  exact ⟨m, hmembers ▸ List.mem_append_right _ hm, hunit⟩

/-! ## Linking a batch -/

/-- Where all names of a batch can be read, the code units on record for a class are linked. -/
lemma exists_unitFinished (b : Batch) (rc : Record.Class) (hread : b.Readable)
    (hrc : b.record? rc.name = some rc)
    (hdenotes : Registry.Denotes rc.name.toList (.object rc.name))
    (hr : (kind, r) ∈ b.context.unitRecords rc.name) :
    ∃ v c m, Completed b.context v.atlas ∧ Finished v ∧ (v.atlas.cls c).imported = true ∧
      (v.atlas.cls c).name = rc.name ∧ m ∈ (v.atlas.cls c).members ∧
      UnitFinished v c kind r m := by
  obtain ⟨a, ha, hcompleted⟩ := exists_link b hread
  obtain ⟨c, hc, htype, -⟩ := exists_follows ha hrc hdenotes
  obtain ⟨v, rfl, hcontext, hfinished⟩ := finished_of_link ha
  obtain ⟨m, hmem, hm⟩ := hfinished.exists_unit hc htype (hcontext ▸ hr)
  exact ⟨v, c, m, hcompleted, hfinished, hc, congrArg Descriptor.name htype, hmem, hm⟩

end ClassAtlas.Linker
