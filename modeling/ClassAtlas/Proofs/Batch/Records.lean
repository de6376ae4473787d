import ClassAtlas.Proofs.Linker.Recorded

/-!
# Records and the classes they become

A name can be spelled in several ways, `a.A` and `a/A` for one, and records of the same class need
not agree on the spelling.  Linking starts from the first record that denotes a class, in any
spelling: its kind, its modifiers and its source are those of the class.  Everything else is looked
up under the name of the class, so it comes from the first record that is spelled like the class
itself.

* `Atlas.Follows` — a class has the supertypes, the type parameters, the enclosing class, the
  annotations and the members of a record.
* `Linked.classCompleted` — what the phases have linked of a class, when all of them are done.
* `imported_follows_records` — **where an imported class comes from**.
-/

namespace ClassAtlas

/-- The record of a name is the first that has it. -/
lemma Batch.record?_eq_some {b : Batch} {name : String} {r : Record.Class} :
    b.record? name = some r ↔ FirstOf (fun r => r.name = name) b.classes r := by
  rw [record?, List.find?_eq_some_iff_append]
  constructor
  · rintro ⟨hname, before, after, hsplit, hbefore⟩
    exact ⟨beq_iff_eq.mp hname, before, after, hsplit, fun y hy => by simpa using hbefore y hy⟩
  · rintro ⟨hname, before, after, hsplit, hbefore⟩
    exact ⟨beq_iff_eq.mpr hname, before, after, hsplit, fun y hy => by simpa using hbefore y hy⟩

/-! ## Classes and their records -/

/-- The members on record for a name, each by its kind and its name.  Fields are of no kind. -/
def ImportContext.outline (context : ImportContext) (name : String) :
    List (Option CodeKind × String) :=
  (context.fields name).map (fun f => (none, f.name)) ++
    (context.unitRecords name).map fun e => (some e.1, e.2.name)

/-- The members of a record: fields, constructors, methods, and the static initializer if there is
one. -/
def Record.Class.outline (r : Record.Class) : List (Option CodeKind × String) :=
  r.fields.map (fun f => (none, f.name)) ++
    r.constructors.map (fun u => (some .constructor, u.name)) ++
    r.methods.map (fun u => (some .method, u.name)) ++
    r.staticInitializer.toList.map (fun u => (some .staticInitializer, u.name))

lemma Batch.outline_of_record? {b : Batch} {name : String} {r : Record.Class}
    (h : b.record? name = some r) : b.context.outline name = r.outline := by
  simp [ImportContext.outline, ImportContext.unitRecords, ImportContext.codeUnits, context, ofClass,
    Record.Class.outline, Function.comp_def, h]

lemma Batch.outline_of_not_record? {b : Batch} {name : String} (h : b.record? name = none) :
    b.context.outline name = [] := by
  simp [ImportContext.outline, ImportContext.unitRecords, ImportContext.codeUnits, context, ofClass,
    h]

namespace Atlas

/-- The members of a class, each by its kind and its name. -/
def outline (a : Atlas) (c : ClassId) : List (Option CodeKind × String) :=
  (a.cls c).members.map fun m => ((a.member m).codeKind?, (a.member m).name)

/-- A name denotes a class of the atlas. -/
def Denotes (a : Atlas) (name : String) (c : ClassId) : Prop :=
  c.index < a.classes.size ∧ Registry.Denotes name.toList (a.cls c).type

/-- A name stands for a variable in a scope: it is declared there, or it is declared nowhere and the
variable is one without bounds. -/
def Resolves (a : Atlas) (scope : Linker.Scope) (name : String) (v : VarId) : Prop :=
  scope.find? a name = some v ∨
    scope.find? a name = none ∧ (a.typeVar v).name = name ∧ (a.typeVar v).owner = scope.owner ∧
      (a.typeVar v).bounds = []

/-- A signature describes a type, if it is read in the scope of a class. -/
def Reads (a : Atlas) (c : ClassId) : TypeSig → TypeRef → Prop :=
  TypeSig.Describes a.Denotes (a.Resolves { cls := c })

/-- A class is what a record says, apart from the header of the record. -/
structure Follows (a : Atlas) (c : ClassId) (r : Record.Class) : Prop where
  superclass : Option.Rel (a.Reads c) r.effectiveSuperclass (a.cls c).superclass
  interfaces : List.Forall₂ (a.Reads c) r.interfaces (a.cls c).interfaces
  enclosingClass : Option.Rel a.Denotes r.enclosingClass (a.cls c).enclosingClass
  typeParameters : List.Forall₂ (fun p v => (a.typeVar v).name = p.name ∧
    List.Forall₂ (a.Reads c) p.bounds (a.typeVar v).bounds) r.typeParameters
      (a.cls c).typeParameters
  annotations : List.Forall₂ (Record.Annot.Describes a.Denotes (.cls c)) r.annotations
    (a.cls c).annotations
  members : a.outline c = r.outline

end Atlas

namespace Linker

variable {b : Batch} {options : ImportOptions} {files : Files} {a : Atlas} {s t u v : Linker}
  {c : ClassId}

lemma Known.denotes (ht : t.WF) (name : String) (id : ClassId) (h : Known t name id) :
    t.atlas.Denotes name id :=
  ⟨ht.named.inRange h, ht.named.denotes h⟩

/-- What is read during linking is read in the atlas. -/
lemma Reads.atlas {sig : TypeSig} {type : TypeRef} (h : Reads t { cls := c } sig type)
    (ht : t.WF) : t.atlas.Reads c sig type := by
  refine h.imp (Known.denotes ht) fun name v hv => ?_
  cases hv with
  | declared hfind => exact Or.inl hfind
  | undeclared hfind hmem =>
      have hloose := ht.undeclared _ hmem
      exact Or.inr ⟨hfind, hloose.name, hloose.owner, hloose.unbounded⟩

/-! ## When all phases are done -/

/-- All that is recorded of a class is linked. -/
structure ClassCompleted (t : Linker) (c : ClassId) : Prop where
  scope : ClassScope t c
  inherited : Inherited t c
  annotated : Annotated t c
  outline : t.atlas.outline c = t.context.outline (t.atlas.cls c).name

/-- Members are linked in the order of their records. -/
lemma ClassLinked.outline (h : ClassLinked [] t c) :
    t.atlas.outline c = t.context.outline (t.atlas.cls c).name := by
  obtain ⟨fields, units, hmembers, hfields, hunits⟩ := h
  rw [Atlas.outline, hmembers, List.nil_append, List.map_append, ImportContext.outline]
  congr 1
  · refine hfields.map_eq_map fun r m hfield => ?_
    rw [hfield.name, Option.isNone_iff_eq_none.mp hfield.isField]
  · refine hunits.map_eq_map fun e m hunit => ?_
    rw [hunit.name, hunit.kind]

lemma Completes.outline {A : Set MemberId} (h : Completes A t u) (c : ClassId) :
    u.atlas.outline c = t.atlas.outline c := by
  rw [Atlas.outline, Atlas.outline, h.members]
  exact List.map_congr_left fun m _ => by rw [(h.unit m).name, (h.unit m).codeKind]

/-- Linking accesses leaves what is linked of a class as it is. -/
lemma ClassCompleted.completes {A : Set MemberId} {p : Phase} (h : ClassCompleted t c) (ht : t.WF)
    (hc : c.index < t.atlas.classes.size) (htu : Completes A { t with phase := p } u) :
    ClassCompleted u c := by
  have hframe := (Frame.withPhase t p).trans htu.steps.frame
  have hcontent := htu.content c
  refine ⟨?_, ?_, ?_, ?_⟩
  · exact h.scope.of_same ht hc hframe (htu.keeps _).same
      fun v hv => htu.typeVar v (ht.closed.classParameters c v hv)
  · exact h.inherited.keeps ht hc hframe (htu.keeps _)
      (congrArg (fun content => (content.1, content.2.1)) hcontent)
  · exact h.annotated.of_frame hc hframe (congrArg (·.2.2.2.2.2) hcontent)
  · rw [htu.outline, hframe.context, hframe.className hc]
    exact h.outline

/-- **All that is recorded of an imported class is linked when all phases are done.** -/
theorem Linked.classCompleted (h : Linked s t u v) {context : ImportContext}
    (hs : Started context s) (hc : (v.atlas.cls c).imported = true) :
    v.WF ∧ v.context = context ∧ ClassCompleted v c := by
  obtain ⟨⟨ht, -⟩, ⟨hu, huphase⟩, hv, -⟩ := h.valid hs
  obtain ⟨hst, hscope, -⟩ := hierarchy_eq_ok hs h.hierarchy
  obtain ⟨htu, hlinked⟩ := members_eq_ok hs h.hierarchy h.members
  obtain ⟨huv, -⟩ := accesses_eq_ok hu huphase h.accesses
  have hframe : Frame s t := (Frame.withPhase s .hierarchy).trans hst.steps.frame
  have hframe' : Frame t u := (Frame.withPhase t .members).trans htu.steps.frame
  have hframe'' : Frame u v := (Frame.withPhase u .accesses).trans huv.steps.frame
  have hmem : c ∈ s.atlas.imported.toList := by
    rw [hs.registered.mem_imported, ← ((hframe.trans hframe').trans hframe'').isImported]
    exact hc
  have hlt : c.index < t.atlas.classes.size :=
    (hs.registered.lt hmem).trans_le hframe.classesSize
  obtain ⟨hclass, hinherited⟩ := hscope c hmem
  obtain ⟨hmembers, hannotated⟩ := hlinked c hmem
  have hcompleted : ClassCompleted u c :=
    ⟨hclass.preserves ht.wf hlt htu.toPreserves, hinherited.preserves ht.wf hlt htu.toPreserves,
      hannotated, hmembers.outline⟩
  refine ⟨hv.wf, ?_, hcompleted.completes hu.wf (hlt.trans_le hframe'.classesSize) huv⟩
  rw [hframe''.context, hframe'.context, hframe.context, hs.context]

/-- A class that has a record follows it. -/
lemma ClassCompleted.follows (h : ClassCompleted t c) (ht : t.WF) (hcontext : t.context = b.context)
    {r : Record.Class} (hr : b.record? (t.atlas.cls c).name = some r) : t.atlas.Follows c r := by
  have hreads : ∀ {sig type}, Reads t { cls := c } sig type → t.atlas.Reads c sig type :=
    fun hsig => hsig.atlas ht
  obtain ⟨⟨henclosing, hname, hbounds⟩, ⟨hsuperclass, hinterfaces⟩, hannotated, houtline⟩ := h
  rw [Annotated] at hannotated
  rw [hcontext] at henclosing hname hbounds hsuperclass hinterfaces hannotated houtline
  rw [Batch.outline_of_record? hr] at houtline
  simp only [Batch.context, Batch.ofClass, hr, Option.map_some, Option.getD_some,
    Option.bind_some] at henclosing hname hbounds hsuperclass hinterfaces hannotated
  refine ⟨?_, ?_, ?_, ?_, ?_, ?_⟩
  · exact hsuperclass.imp fun _ _ htype => hreads htype.reads
  · exact hinterfaces.imp fun _ _ htype => hreads htype.reads
  · exact henclosing.imp (Known.denotes ht)
  · refine List.Forall₂.mp (fun p v hname hbounds => ⟨hname, ?_⟩) hname hbounds
    exact List.Forall₂.imp (fun _ _ hbound => hreads hbound.2) hbounds
  · exact hannotated.imp fun _ _ hdescribes => hdescribes.imp (Known.denotes ht)
  · exact houtline

/-- A class without a record has nothing. -/
lemma ClassCompleted.stub (h : ClassCompleted t c) (hcontext : t.context = b.context)
    (hr : b.record? (t.atlas.cls c).name = none) : (t.atlas.cls c).Stub := by
  obtain ⟨⟨henclosing, hname, -⟩, ⟨hsuperclass, hinterfaces⟩, hannotated, houtline⟩ := h
  rw [Annotated] at hannotated
  rw [hcontext] at henclosing hname hsuperclass hinterfaces hannotated houtline
  rw [Batch.outline_of_not_record? hr, Atlas.outline, List.map_eq_nil_iff] at houtline
  simp only [Batch.context, Batch.ofClass, hr, Option.map_none, Option.getD_none, Option.bind_none,
    List.forall₂_nil_left_iff] at henclosing hname hsuperclass hinterfaces hannotated
  exact ⟨hsuperclass.eq_none, hinterfaces, hname, henclosing.eq_none, houtline, hannotated⟩

/-! ## Imported classes -/

/-- **Where an imported class comes from.**  Its header is that of the first record that denotes it,
whatever the spelling.  Everything else comes from the first record that is spelled like the class:
from the same one if that has this spelling, from a later one if it has not, and from nowhere, so
that the class stays empty, if no record has. -/
theorem imported_follows_records (h : Atlas.link b.context options files = .ok a)
    (hc : (a.cls c).imported = true) :
    (∃ first, FirstOf (fun r => Registry.Denotes r.name.toList (a.cls c).type) b.classes first ∧
      Headed files options first.header (a.cls c) ∧
      (first.name = (a.cls c).name → a.Follows c first)) ∧
    (∀ r, FirstOf (fun r => r.name = (a.cls c).name) b.classes r → a.Follows c r) ∧
    ((∀ r ∈ b.classes, r.name ≠ (a.cls c).name) → (a.cls c).Stub) := by
  obtain ⟨s, t, u, v, hstart, hlinked, rfl⟩ := linked_of_link h
  obtain ⟨hv, hcontext, hcompleted⟩ := hlinked.classCompleted (start_eq_ok hstart) hc
  have hfollows : ∀ r, FirstOf (fun r => r.name = (v.atlas.cls c).name) b.classes r →
      v.atlas.Follows c r :=
    fun r hr => hcompleted.follows hv hcontext (Batch.record?_eq_some.mpr hr)
  obtain ⟨header, hheader, hheaded⟩ := (recorded_of_link h).headed c hc
  obtain ⟨first, rfl, hfirst⟩ := hheader.of_map
  refine ⟨⟨first, hfirst, hheaded, fun hname => hfollows first ?_⟩, hfollows, fun hnone => ?_⟩
  · -- whatever is spelled like the class denotes it
    refine hfirst.of_imp hname fun r _ hr => ?_
    rw [show r.header.name = _ from hr]
    exact hv.named.denotes (hv.named.own c (Atlas.lt_of_imported hc))
  · refine hcompleted.stub hcontext (List.find?_eq_none.mpr fun r hr => ?_)
    simpa using hnone r hr

/-- A class whose name is spelled with a slash. -/
def slashedClass : Record.Class :=
  { name := "a/A", fields := [{ name := "f", type := .cls "int" }] }

/-- The same class once more, spelled with a dot. -/
def dottedClass : Record.Class :=
  { name := "a.A"
    kind := .interface
    typeParameters := [{ name := "T", bounds := [.cls "a.B"] }]
    interfaces := [.parameterized "a/I" [.variable "T", .variable "U"]]
    fields := [{ name := "g", type := .variable "T" }]
    methods := [{ name := "m" }] }

def slashedBatch : Batch :=
  ⟨[slashedClass]⟩

def respelledBatch : Batch :=
  ⟨[slashedClass, dottedClass]⟩

/-- A batch with the record that is spelled with a slash has an imported class for it. -/
lemma link_slashed (hread : b.Readable) (hmem : slashedClass ∈ b.classes) :
    ∃ a c, Atlas.link b.context {} .none = .ok a ∧ (a.cls c).imported = true ∧
      Registry.Denotes slashedClass.name.toList (a.cls c).type ∧ (a.cls c).name = "a.A" := by
  obtain ⟨a, ha, -⟩ := exists_link b hread
  obtain ⟨c, hc, hdenotes⟩ := (recorded_of_link ha).present slashedClass.header
    (List.mem_map_of_mem hmem)
  have hobject : Registry.Denotes slashedClass.name.toList (.object "a.A") :=
    @Registry.Denotes.className _ "a.A".toList rfl
  exact ⟨a, c, ha, hc, hdenotes, congrArg Descriptor.name (hdenotes.unique hobject)⟩

/-- The class comes from both records: it is no interface, as the first one says, and has the
members of the second one. -/
theorem imported_follows_records_respelledBatch :
    ∃ a c, Atlas.link respelledBatch.context {} .none = .ok a ∧ (a.cls c).imported = true ∧
      (a.cls c).name = "a.A" ∧ Headed .none {} slashedClass.header (a.cls c) ∧
      a.Follows c dottedClass := by
  obtain ⟨a, c, ha, hc, hdenotes, hname⟩ :=
    link_slashed (b := respelledBatch) (by decide +kernel) (List.mem_cons_self ..)
  obtain ⟨⟨first, hfirst, hheaded, -⟩, hfollows, -⟩ := imported_follows_records ha hc
  refine ⟨a, c, ha, hc, hname, hfirst.eq_head hdenotes ▸ hheaded, hfollows dottedClass ?_⟩
  rw [hname]
  exact ⟨rfl, [slashedClass], [], rfl, by simp [slashedClass]⟩

/-- **A record can be lost**: a class that is imported from the only record of a batch, spelled with
a slash, has none of the members on record. -/
theorem members_lost_slashedBatch :
    ∃ a c, Atlas.link slashedBatch.context {} .none = .ok a ∧ (a.cls c).imported = true ∧
      FirstOf (fun r => Registry.Denotes r.name.toList (a.cls c).type) slashedBatch.classes
        slashedClass ∧
      slashedClass.fields ≠ [] ∧ (a.cls c).members = [] ∧ ¬ a.Follows c slashedClass := by
  obtain ⟨a, c, ha, hc, hdenotes, hname⟩ :=
    link_slashed (b := slashedBatch) (by decide +kernel) (List.mem_cons_self ..)
  obtain ⟨s, t, u, v, hstart, hlinked, rfl⟩ := linked_of_link ha
  obtain ⟨-, hcontext, hcompleted⟩ := hlinked.classCompleted (start_eq_ok hstart) hc
  have hstub : (v.atlas.cls c).Stub :=
    hcompleted.stub hcontext (by rw [hname]; decide +kernel)
  refine ⟨v.atlas, c, ha, hc, ⟨hdenotes, [], [], rfl, by simp⟩, by simp [slashedClass],
    hstub.members, fun hfollows => ?_⟩
  have hmembers := hfollows.members
  rw [Atlas.outline, hstub.members] at hmembers
  simp [slashedClass, Record.Class.outline] at hmembers

end Linker

end ClassAtlas
