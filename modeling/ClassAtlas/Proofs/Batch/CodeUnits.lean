import ClassAtlas.Atlas.Members
import ClassAtlas.Proofs.Batch.Scopes
import ClassAtlas.Proofs.Linker.Consistency

/-!
# Code units and their keys

What a code unit accesses is looked up by its key, and the key is made of the types that the code
unit is linked to.  So accesses are linked as long as the key leads back to their record.

* `Access.Represents` — an access of the atlas stands for a recorded one.
* `Scoped.descriptor_eq` — the descriptor of a linked code unit, from its record.
* `codeUnits_completed` — **what the code units of a class are linked to**.
* `recorded_uses_represented` — **what is recorded is linked, as long as the key stays the same**.
-/

namespace ClassAtlas

/-! ## Keys and records -/

/-- A full name of the target of a recorded access: `Owner.name` for a field, `Owner.name(p, q)` for
a code unit, with the full names of the parameter types. -/
def Record.Use.Targets (use : Record.Use) (fullName : String) : Prop :=
  match use.kind.targetKind with
  | .field => fullName = fieldName use.owner use.name
  | _ => ∃ types : List Descriptor,
      List.Forall₂ (fun n d => d.Proper ∧ d.name = n) use.parameters types ∧
      fullName = codeUnitName use.owner use.name (types.map Descriptor.fullName)

/-- The full name of the target of a recorded access is unique. -/
lemma Record.Use.Targets.unique {use : Record.Use} {n n' : String} (h : use.Targets n)
    (h' : use.Targets n') : n = n' := by
  rw [Record.Use.Targets] at h h'
  revert h h'
  cases use.kind.targetKind with
  | field => exact fun h h' => h.trans h'.symm
  | _ =>
      rintro ⟨types, htypes, rfl⟩ ⟨types', htypes', rfl⟩
      have heq : types = types' := List.right_unique_forall₂' (fun _ _ _ hd hd' =>
        Descriptor.Proper.name_inj hd.1 hd'.1 (hd.2.trans hd'.2.symm)) htypes htypes'
      rw [heq]

/-- An access stands for a recorded one: it has its kind, its line and the full name of its
target. -/
structure Access.Represents (x : Access) (use : Record.Use) : Prop where
  kind : x.kind = use.kind
  line : x.line = use.line
  target : use.Targets x.target.fullName

namespace Batch

variable {b : Batch} {r : Record.Class} {u : Record.CodeUnit}

/-- The key of a record finds it. -/
lemma Orderly.codeUnit?_key (h : b.Orderly) (hr : r ∈ b.classes) (hu : u ∈ r.codeUnits) :
    b.codeUnit? (u.key r.name (b.scopes r.name)) = some u := by
  rw [codeUnit?, Record.CodeUnit.key, h.record?_eq hr]
  change r.codeUnits.find? _ = _
  rcases hfound : r.codeUnits.find? _ with _ | u'
  · exact absurd (List.find?_eq_none.mp hfound u hu) (by simp)
  · have hsame := List.find?_some hfound
    rw [Bool.and_eq_true, beq_iff_eq, beq_iff_eq] at hsame
    exact congrArg some (List.inj_on_of_nodup_map (h.keys r hr) (List.mem_of_find?_eq_some hfound)
      hu (Prod.ext hsame.1 hsame.2))

/-- What is recorded for the key of a record. -/
lemma Orderly.uses_key (h : b.Orderly) (hr : r ∈ b.classes) (hu : u ∈ r.codeUnits) :
    b.context.uses (u.key r.name (b.scopes r.name)) = u.uses := by
  rw [uses_context, ofUnit, h.codeUnit?_key hr hu]
  rfl

/-- The code units of a class on record. -/
lemma Orderly.unitRecords_eq (h : b.Orderly) (hr : r ∈ b.classes) :
    (b.context.unitRecords r.name).map Prod.snd = r.codeUnits := by
  simp [ImportContext.unitRecords, ImportContext.codeUnits, context, ofClass, h.record?_eq hr,
    Record.Class.codeUnits, Function.comp_def]

end Batch

namespace Linker

variable {b : Batch} {s t u v : Linker} {c : ClassId} {m : MemberId} {kind : CodeKind}
  {r : Record.CodeUnit}

/-! ## The state after linking members -/

/-- The scopes of an orderly batch are linked when members are. -/
lemma scoped_of_members (hb : b.Orderly) (hs : Started b.context s)
    (hhierarchy : hierarchyBody { s with phase := .hierarchy } = .ok () t)
    (hmembers : membersBody { t with phase := .members } = .ok () u) : Scoped b u := by
  obtain ⟨-, ht, -⟩ := phase_of_ok (r := .hierarchy) rfl hs.valid hs.phase hhierarchy
  obtain ⟨hst, hscope, hother⟩ := hierarchy_eq_ok hs hhierarchy
  obtain ⟨htu, -⟩ := members_eq_ok hs hhierarchy hmembers
  have hframe := hst.steps.frame
  have hframe' := htu.steps.frame
  have hwf := ht.wf.withPhase .members
  have himported : ∀ c, (u.atlas.cls c).imported = true ↔ c ∈ s.atlas.imported.toList := by
    intro c
    rw [hframe'.isImported, hs.registered.mem_imported]
    exact iff_of_eq (congrArg (· = true) (hframe.isImported c))
  refine ⟨hb, ⟨htu.steps.wf hwf, ?_⟩, ?_, fun r hr => ?_, fun c hc => ?_, fun c hc => ?_⟩
  · have hobject := hframe.type Atlas.object hs.registered.nonempty
    have hobject' := hframe'.type Atlas.object
      (hs.registered.nonempty.trans_le hframe.classesSize)
    rw [ClassNode.name, hobject', hobject]
    exact congrArg Descriptor.name hs.registered.topmost
  · exact (hframe'.context.trans hframe.context).trans hs.context
  · have hheader : r.header ∈ s.context.headers := by
      rw [hs.context]
      exact List.mem_map_of_mem hr
    obtain ⟨c, hc, hname⟩ := hs.hasClass _ hheader
    exact ⟨c, hframe'.names _ _ (hframe.names _ _ hname), (himported c).mpr hc⟩
  · have hmem := (himported c).mp hc
    have hlt := (hs.registered.lt hmem).trans_le hframe.classesSize
    exact (hscope c hmem).1.preserves ht.wf hlt htu.toPreserves
  · have hmem : c ∉ s.atlas.imported.toList := fun hmem => by
      rw [(himported c).mpr hmem] at hc
      cases hc
    rw [htu.enclosingClass, htu.typeParameters]
    exact hother c hmem

/-- The variables of a linked code unit are the type parameters in its scope. -/
lemma Scoped.unit_aligned (h : Scoped b t) (hc : c.index < t.atlas.classes.size)
    (hplain : ∀ p ∈ r.typeParameters, p.Plain) (hm : UnitLinked t c kind r m) :
    Aligned t (Scope.typeVars { cls := c, codeUnit := some m } t.atlas)
      (r.typeParameters :: b.scopes (t.atlas.cls c).name) := by
  have hvars : Scope.typeVars { cls := c, codeUnit := some m } t.atlas =
      (t.atlas.member m).typeParameters ++ Scope.typeVars { cls := c } t.atlas := by
    simp [Scope.typeVars_eq]
  rw [hvars]
  exact .level hvars (forall₂_declaration hm.varName hm.bounds hplain) (h.aligned hc)

/-- The descriptor of a linked code unit, from its record. -/
lemma Scoped.descriptor_eq (h : Scoped b t) (hc : c.index < t.atlas.classes.size)
    (hplain : ∀ p ∈ r.typeParameters, p.Plain) (hnames : ∀ n ∈ r.names, Canonical n)
    (hm : UnitLinked t c kind r m) :
    (t.atlas.member m).descriptor = r.linkedDescriptor (b.scopes (t.atlas.cls c).name) := by
  obtain ⟨unit, returns, raw, hunit⟩ := hm.unit
  have herases : ∀ {sig : TypeSig} {type : TypeRef} {raw : ClassId},
      (∀ n ∈ sig.names, Canonical n) →
      Erases t { cls := c, codeUnit := some m } sig type raw →
      fieldDescriptor (t.atlas.cls raw).name = fieldDescriptor
        (sig.linkedName (r.typeParameters :: b.scopes (t.atlas.cls c).name)) := by
    intro sig type raw hcanonical hlinked
    rw [hlinked.raw]
    exact h.erasable.fieldDescriptor_erasureWithin (h.unit_aligned hc hplain hm) hcanonical
      hlinked.links 33
  have hparameterNames : ∀ p ∈ r.parameters, ∀ n ∈ p.type.names, Canonical n := by
    intro p hp n hn
    refine hnames n ?_
    have hmem : n ∈ r.parameters.flatMap Record.Param.names :=
      List.mem_flatMap_of_mem hp (List.mem_append_left _ hn)
    simp only [Record.CodeUnit.names, List.mem_append, hmem, true_or, or_true]
  have hreturnNames : ∀ n ∈ r.returns.names, Canonical n := by
    intro n hn
    refine hnames n ?_
    simp only [Record.CodeUnit.names, List.mem_append, hn, true_or, or_true]
  have hlist : (unit.parameters.map fun p => (t.atlas.cls p.raw).name).map fieldDescriptor =
      (r.parameters.map fun p => p.type.linkedName
        (r.typeParameters :: b.scopes (t.atlas.cls c).name)).map fieldDescriptor := by
    rw [← List.forall₂_eq_eq_eq, List.map_map, List.map_map, List.forall₂_map_left_iff,
      List.forall₂_map_right_iff]
    exact hunit.parameters.flip.imp_mem fun _ _ p hp hlinked =>
      herases (hparameterNames p hp) hlinked.toErases
  rw [hunit.descriptor, Record.CodeUnit.linkedDescriptor, methodDescriptor, methodDescriptor, hlist,
    herases hreturnNames hunit.erases]

/-! ## The linked code units -/

/-- A linked access stands for the recorded one. -/
lemma Represents.access {use : Record.Use} {x : Access} (h : Represents t use x) (ht : t.WF)
    (hnames : ∀ n ∈ use.names, Canonical n) : x.Represents use := by
  obtain ⟨linked, hlinked, hrealizes⟩ := h
  simp only [Realizes, Prod.mk.injEq] at hrealizes
  obtain ⟨hkind, htarget, hline⟩ := hrealizes
  have howner : (t.atlas.cls linked.2.1.owner).name = use.owner := by
    obtain ⟨d, hd, hname⟩ := hnames use.owner (List.mem_cons_self ..)
    rw [← hname]
    exact ht.named.name_eq hd (hname ▸ hlinked.owner)
  have hparameters : List.Forall₂ (fun n d => d.Proper ∧ d.name = n) use.parameters
      (linked.2.1.parameters.map fun p => (t.atlas.cls p).type) := by
    refine List.forall₂_map_right_iff.mpr (hlinked.parameters.imp_mem fun n hn p _ hp => ?_)
    obtain ⟨d, hd, rfl⟩ := hnames n (by simp [Record.Use.names, hn])
    exact ⟨ht.named.proper (ht.named.inRange hp), ht.named.name_eq hd hp⟩
  refine ⟨hkind.trans hlinked.kind, hline.trans hlinked.line, ?_⟩
  rw [Record.Use.Targets, htarget, hlinked.fullName, Atlas.targetName, hlinked.targetKind, howner,
    hlinked.name]
  cases use.kind.targetKind with
  | field => rfl
  | _ => exact ⟨_, hparameters, by rw [List.map_map]; rfl⟩

/-- A code unit of an atlas is what its record is linked to, and its accesses are those on record
for its key. -/
structure UnitCompleted (b : Batch) (a : Atlas) (r : Record.Class) (u : Record.CodeUnit)
    (m : MemberId) : Prop where
  key : a.unitKey m = ⟨r.name, u.name, u.linkedDescriptor (b.scopes r.name)⟩
  represented : ∀ use ∈ b.context.uses (a.unitKey m), ∃ x ∈ a.accessesFrom m, x.Represents use
  recorded : ∀ x ∈ a.accessesFrom m, ∃ use ∈ b.context.uses (a.unitKey m), x.Represents use

/-- A code unit whose key is not on record has no accesses. -/
lemma UnitCompleted.accessesFrom_eq_nil {a : Atlas} {rc : Record.Class}
    (h : UnitCompleted b a rc r m) (hnone : b.codeUnit? (a.unitKey m) = none) :
    a.accessesFrom m = [] := by
  refine List.eq_nil_iff_forall_not_mem.mpr fun x hx => ?_
  obtain ⟨use, huse, -⟩ := h.recorded x hx
  rw [Batch.uses_context, Batch.ofUnit, hnone] at huse
  cases huse

/-- The code units of a class are its members other than fields. -/
lemma codeUnits_eq {a : Atlas} {fields units : List MemberId}
    (hmembers : (a.cls c).members = fields ++ units)
    (hfields : ∀ m ∈ fields, (a.member m).isField = true)
    (hunits : ∀ m ∈ units, (a.member m).isField = false) : a.codeUnits c = units := by
  have hunit : ∀ m : Member, m.codeUnit?.isSome = !m.isField := by
    intro m
    rw [Member.codeUnit?, Member.isField, Member.codeKind?]
    cases m.body <;> rfl
  simp only [Atlas.codeUnits, Atlas.declared, hunit, hmembers, List.filter_append]
  rw [List.filter_eq_nil_iff.mpr (fun m hm => by simp [hfields m hm]), List.nil_append,
    List.filter_eq_self.mpr fun m hm => by simp [hunits m hm]]

/-- A code unit that is linked is completed by linking its accesses. -/
lemma UnitLinked.completed {rc : Record.Class} (h : UnitLinked t c kind r m) (ht : Scoped b t)
    (hrc : rc ∈ b.classes) (hr : r ∈ rc.codeUnits) (hc : t.atlas.names.get? rc.name = some c)
    (htu : Completes Set.univ { t with phase := .accesses } u)
    (howner : (u.atlas.member m).owner = c)
    (haccesses : AccessesLinked u m
      ⟨(t.atlas.cls c).name, r.name, (t.atlas.member m).descriptor⟩) :
    UnitCompleted b u.atlas rc r m := by
  have hlt := ht.erasable.wf.named.inRange hc
  have hframe := htu.steps.frame
  have hcontext : u.context = b.context := hframe.context.trans ht.context
  have hname : (t.atlas.cls c).name = rc.name :=
    ht.erasable.name_eq (ht.orderly.canonical_of_mem hrc (by simp [Record.Class.names])) hc
  have hdescriptor : (t.atlas.member m).descriptor = r.linkedDescriptor (b.scopes rc.name) := by
    rw [← hname]
    refine ht.descriptor_eq hlt (fun p hp => ht.orderly.plain hrc ?_) (fun n hn => ?_) h
    · exact List.mem_append_right _ (List.mem_flatMap_of_mem hr hp)
    · exact ht.orderly.canonical_of_mem hrc (Record.Class.mem_names_of_codeUnit hr hn)
  have hkey : u.atlas.unitKey m =
      ⟨(t.atlas.cls c).name, r.name, (t.atlas.member m).descriptor⟩ := by
    rw [Atlas.unitKey, howner, hframe.className hlt, (htu.unit m).name, (htu.unit m).descriptor]
    exact congrArg (fun name => UnitKey.mk _ name _) h.name
  rw [← hkey] at haccesses
  have hrepresents : ∀ {use : Record.Use} {x : Access}, use ∈ u.context.uses (u.atlas.unitKey m) →
      Represents u use x → x.Represents use := by
    intro use x huse hx
    rw [hcontext] at huse
    refine hx.access (htu.steps.wf (ht.erasable.wf.withPhase .accesses)) fun n hn => ?_
    exact ht.orderly.canonical n (Batch.mem_names_of_mentions (.use huse hn))
  refine ⟨by rw [hkey, hname, hdescriptor], fun use huse => ?_, fun x hx => ?_⟩
  · rw [← hcontext] at huse
    obtain ⟨i, hi, hx⟩ := haccesses.represented huse
    exact ⟨_, List.mem_map_of_mem hi, hrepresents huse hx⟩
  · obtain ⟨i, hi, rfl⟩ := List.mem_map.mp hx
    obtain ⟨use, huse, hx⟩ := haccesses.recorded hi
    exact ⟨use, hcontext ▸ huse, hrepresents huse hx⟩

/-- **The code units of a linked class, in the order of their records.** -/
theorem codeUnits_completed {options : ImportOptions} {files : Files} {a : Atlas} (hb : b.Orderly)
    (h : Atlas.link b.context options files = .ok a) {rc : Record.Class} (hrc : rc ∈ b.classes) :
    ∃ c, a.names.get? rc.name = some c ∧
      List.Forall₂ (UnitCompleted b a rc) rc.codeUnits (a.codeUnits c) := by
  have hconsistent := (completed_of_link h).consistent
  obtain ⟨s, t, u, v, hstart, hlinked, rfl⟩ := linked_of_link h
  have hs := start_eq_ok hstart
  obtain ⟨-, ⟨hu, huphase⟩, -⟩ := hlinked.valid hs
  have hscoped := scoped_of_members hb hs hlinked.hierarchy hlinked.members
  obtain ⟨hst, -⟩ := hierarchy_eq_ok hs hlinked.hierarchy
  obtain ⟨htu, hclasses⟩ := members_eq_ok hs hlinked.hierarchy hlinked.members
  obtain ⟨huv, haccesses⟩ := accesses_eq_ok hu huphase hlinked.accesses
  obtain ⟨c, hc, hknown⟩ : HasClass s.atlas rc.name :=
    hs.hasClass rc.header (hs.context ▸ List.mem_map_of_mem hrc)
  have hknown : u.atlas.names.get? rc.name = some c :=
    htu.steps.frame.names _ _ (hst.steps.frame.names _ _ hknown)
  have hname : (u.atlas.cls c).name = rc.name :=
    hscoped.erasable.name_eq (hb.canonical_of_mem hrc (by simp [Record.Class.names])) hknown
  obtain ⟨⟨fields, units, hmembers, hfields, hunits⟩, -⟩ := hclasses c hc
  have hmembers' : (v.atlas.cls c).members = fields ++ units := (huv.members c).trans hmembers
  have hisField : ∀ m, (v.atlas.member m).isField = (u.atlas.member m).isField :=
    fun m => congrArg Option.isNone (huv.unit m).codeKind
  have hcodeUnits : v.atlas.codeUnits c = units := by
    refine codeUnits_eq hmembers' (fun m hm => ?_) fun m hm => ?_
    · obtain ⟨r, -, hfield⟩ := hfields.exists_left hm
      rw [hisField]
      exact hfield.isField
    · obtain ⟨e, -, hunit⟩ := hunits.exists_left hm
      rw [hisField, Member.isField, hunit.kind]
      rfl
  refine ⟨c, huv.steps.frame.names _ _ hknown, ?_⟩
  rw [hscoped.context, hname] at hunits
  rw [hcodeUnits, ← hb.unitRecords_eq hrc, List.forall₂_map_left_iff]
  refine hunits.imp_mem fun e he m hm hunit => ?_
  have howner := (hconsistent.owner (hmembers' ▸ List.mem_append_right _ hm)).2
  refine hunit.completed hscoped hrc ?_ hknown huv howner (haccesses _ hunit.queued)
  rw [← hb.unitRecords_eq hrc]
  exact List.mem_map_of_mem he

/-- **What is recorded for a code unit is linked as long as linking does not change its key.**  The
key of a linked code unit has the descriptor of the linked types.  It is the key of the record if
the types settle within the steps that erasing by name takes, and then the accesses of the code unit
are those on record; if it is not the key of any record, the code unit has no accesses. -/
theorem recorded_uses_represented {options : ImportOptions} {files : Files} {a : Atlas}
    (hb : b.Orderly) (h : Atlas.link b.context options files = .ok a) :
    ∀ rc ∈ b.classes, ∃ c, a.names.get? rc.name = some c ∧
      List.Forall₂ (fun r m =>
          a.unitKey m = ⟨rc.name, r.name, r.linkedDescriptor (b.scopes rc.name)⟩ ∧
          (r.settles (b.scopes rc.name) = true →
            a.unitKey m = r.key rc.name (b.scopes rc.name)) ∧
          (a.unitKey m = r.key rc.name (b.scopes rc.name) →
            (∀ use ∈ r.uses, ∃ x ∈ a.accessesFrom m, x.Represents use) ∧
            ∀ x ∈ a.accessesFrom m, ∃ use ∈ r.uses, x.Represents use) ∧
          (b.codeUnit? (a.unitKey m) = none → a.accessesFrom m = []))
        rc.codeUnits (a.codeUnits c) := by
  intro rc hrc
  obtain ⟨c, hknown, hunits⟩ := codeUnits_completed hb h hrc
  refine ⟨c, hknown, hunits.imp_mem fun r hr m _ hm => ⟨hm.key, fun hsettles => ?_, fun hkey => ?_,
    hm.accessesFrom_eq_nil⟩⟩
  · rw [hm.key, Record.CodeUnit.linkedDescriptor_of_settles hsettles]
    rfl
  · have huses := hb.uses_key hrc hr
    rw [← hkey] at huses
    exact ⟨huses ▸ hm.represented, huses ▸ hm.recorded⟩

/-- A class within a class, with a method whose types are bounded by those of both. -/
def innerClass : Record.Class :=
  { name := "a.Outer$Inner"
    enclosingClass := some "a.Outer"
    typeParameters := [⟨"U", [.variable "T"]⟩]
    methods := [
      { name := "m"
        typeParameters := [⟨"V", [.variable "U"]⟩]
        parameters := [⟨.variable "V", []⟩, ⟨.genericArray (.variable "T"), []⟩]
        methodCalls := [{ owner := "a.C", name := "run", parameters := ["int"], line := 7 }] }] }

def innerBatch : Batch :=
  ⟨[innerClass, { name := "a.Outer", typeParameters := [⟨"T", [.cls "a.B"]⟩] }]⟩

lemma orderly_innerBatch : innerBatch.Orderly :=
  Batch.orderly_of_plain (by decide +kernel) (by decide +kernel) (by decide +kernel)
    (by decide +kernel) (by decide +kernel)

lemma scopes_innerBatch : innerBatch.scopes "a.Outer$Inner" =
    [[⟨"U", [.variable "T"]⟩], [⟨"T", [.cls "a.B"]⟩]] := by
  rw [Batch.scopes_of_single orderly_innerBatch.acyclic (r := innerClass) rfl rfl,
    Batch.scopes_of_nil rfl]
  rfl

theorem recorded_uses_represented_innerBatch :
    ∃ a c m, innerBatch.Orderly ∧ Atlas.link innerBatch.context {} .none = .ok a ∧
      a.names.get? "a.Outer$Inner" = some c ∧ a.codeUnits c = [m] ∧
      a.unitKey m = ⟨"a.Outer$Inner", "m", "(La/B;[La/B;)V"⟩ ∧
      ∃ x ∈ a.accessesFrom m, x.kind = .methodCall ∧ x.line = 7 ∧
        x.target.fullName = "a.C.run(int)" := by
  obtain ⟨a, ha, -⟩ := exists_link innerBatch (by decide +kernel)
  obtain ⟨c, hc, hunits⟩ := recorded_uses_represented orderly_innerBatch ha innerClass
    (List.mem_cons_self ..)
  have hname : innerClass.name = "a.Outer$Inner" := rfl
  rw [hname, scopes_innerBatch] at hunits
  obtain ⟨m, ms, ⟨hkey, hsettled, haccesses, -⟩, hms, hm⟩ := List.forall₂_cons_left_iff.mp hunits
  obtain rfl := List.forall₂_nil_left_iff.mp hms
  obtain ⟨hall, -⟩ := haccesses (hsettled (by decide +kernel))
  obtain ⟨x, hx, hrep⟩ := hall (.call .methodCall
    { owner := "a.C", name := "run", parameters := ["int"], line := 7 })
    (List.mem_singleton.mpr rfl)
  refine ⟨a, c, m, orderly_innerBatch, ha, hc, hm, hkey.trans (by decide +kernel), x, hx, hrep.kind,
    hrep.line, hrep.target.unique ?_⟩
  exact ⟨[.primitive .int], .cons ⟨trivial, rfl⟩ .nil, by decide +kernel⟩

/-- A method with seventeen type variables, each bounded by the next and the last one by a class. -/
def chainMethod : Record.CodeUnit :=
  { name := "m"
    typeParameters := (List.range 17).map fun i =>
      ⟨"T" ++ toString i, [if i < 16 then .variable ("T" ++ toString (i + 1)) else .cls "a.B"]⟩
    parameters := [⟨.variable "T0", []⟩]
    methodCalls := [{ owner := "a.C", name := "run", line := 7 }] }

def chainBatch : Batch :=
  ⟨[{ name := "a.A", methods := [chainMethod] }]⟩

/-- A recorded access is lost where linking changes the key. -/
theorem recorded_use_lost_chainBatch :
    ∃ a c m, chainBatch.Orderly ∧ Atlas.link chainBatch.context {} .none = .ok a ∧
      a.names.get? "a.A" = some c ∧ a.codeUnits c = [m] ∧
      chainMethod.descriptor = none ∧ chainMethod.uses ≠ [] ∧
      a.unitKey m ≠ chainMethod.key "a.A" (chainBatch.scopes "a.A") ∧ a.accessesFrom m = [] := by
  have horderly : chainBatch.Orderly :=
    Batch.orderly_of_plain (by decide +kernel) (by decide +kernel) (by decide +kernel)
      (by decide +kernel) (by decide +kernel)
  obtain ⟨a, ha, -⟩ := exists_link chainBatch (by decide +kernel)
  obtain ⟨c, hc, hunits⟩ := codeUnits_completed horderly ha (List.mem_cons_self ..)
  obtain ⟨m, ms, hunit, hms, hm⟩ := List.forall₂_cons_left_iff.mp hunits
  obtain rfl := List.forall₂_nil_left_iff.mp hms
  have hkey : a.unitKey m = ⟨"a.A", "m", "(La/B;)V"⟩ := hunit.key.trans (by decide +kernel)
  refine ⟨a, c, m, horderly, ha, hc, hm, rfl, List.cons_ne_nil _ _, ?_,
    hunit.accessesFrom_eq_nil ?_⟩
  · rw [hkey]
    decide +kernel
  · rw [hkey, ← Option.isNone_iff_eq_none]
    decide +kernel

end Linker

end ClassAtlas
