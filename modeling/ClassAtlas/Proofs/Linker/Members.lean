import ClassAtlas.Proofs.Linker.CodeUnits

/-!
# Linking members

* `FieldLinked` — a field is what its record says.
* `ClassLinked` — a class has a field and then a code unit for each record.
* `moves_membersBody` — **every member on record is linked**, code units are queued, and every class
  has the annotations on record.
-/

namespace ClassAtlas

namespace Linker

variable {F : Prop} {s t u : Linker}

/-! ## Fields -/

/-- A field is what its record says. -/
structure FieldLinked (t : Linker) (owner : ClassId) (r : Record.Field) (m : MemberId) : Prop where
  taken : m.index < t.atlas.members.size
  name : (t.atlas.member m).name = r.name
  fullName : (t.atlas.member m).fullName = fieldName (t.atlas.cls owner).name r.name
  body : ∃ type raw, (t.atlas.member m).body = .field type raw ∧
    Erases t { cls := owner } r.type type raw
  annotations : List.Forall₂ (Record.Annot.Describes (Known t) (.member m)) r.annotations
    (t.atlas.member m).annotations

lemma FieldLinked.isField {owner : ClassId} {r : Record.Field} {m : MemberId}
    (h : FieldLinked t owner r m) : (t.atlas.member m).isField = true := by
  obtain ⟨type, raw, hbody, -⟩ := h.body
  rw [Member.isField, Member.codeKind?, hbody]
  rfl

/-- A field stays what its record says, as long as it is the same member. -/
lemma FieldLinked.keeps {owner : ClassId} {r : Record.Field} {m : MemberId}
    (h : FieldLinked t owner r m) (ht : t.WF) (howner : owner.index < t.atlas.classes.size)
    (hframe : Frame t u) (hkeeps : Scope.Keeps { cls := owner } t u)
    (hmember : u.atlas.member m = t.atlas.member m) : FieldLinked u owner r m := by
  obtain ⟨type, raw, hbody, herases⟩ := h.body
  refine ⟨h.taken.trans_le hframe.membersSize, ?_, ?_, ⟨type, raw, ?_, ?_⟩, ?_⟩
  · rw [hmember]
    exact h.name
  · rw [hmember, hframe.className howner]
    exact h.fullName
  · rw [hmember]
    exact hbody
  · exact herases.keeps ht hkeeps
  · rw [hmember]
    exact h.annotations.imp fun _ _ hx => hx.imp hframe.names

lemma FieldLinked.preserves {owner : ClassId} {r : Record.Field} {m : MemberId}
    (h : FieldLinked t owner r m) (ht : t.WF) (howner : owner.index < t.atlas.classes.size)
    (htu : Preserves t u) : FieldLinked u owner r m :=
  h.keeps ht howner htu.steps.frame (htu.keeps fun _ hm => by cases hm) (htu.member m h.taken)

/-- **Linking a field adds a field to its class, as its record says.** -/
theorem moves_linkField {owner : ClassId} {r : Record.Field} (hs : s.WF)
    (howner : (s.atlas.cls owner).imported = true)
    (hF : ∀ n ∈ r.names, Registry.readable n.toList = false → F) :
    Moves (Adds {owner}) F s (linkField owner r) fun _ =>
      Gains owner (fun m u => FieldLinked u owner r m) s := by
  unfold linkField
  have hscope : Scope.owner { cls := owner } |>.Within s.atlas.extent :=
    Atlas.lt_of_imported howner
  refine (moves_linkType _ _ s hs hscope fun n hn => hF n (List.mem_append_left _ hn)).bind_along
    (fun t => Grows.adds) fun type t hst htype => moves_get_bind ?_
  dsimp only
  have ht := hst.wf hs
  have howner' := (hst.frame.isImported owner).trans howner
  have herases : Erases t { cls := owner } r.type type (t.atlas.erasure type) := ⟨htype, rfl⟩
  refine moves_addMember_bind howner' (fun _ => ⟨rfl, rfl, rfl, rfl, rfl, rfl, rfl, rfl⟩)
    (fun _ => ⟨htype.fits, herases.lt ht⟩) fun u hbuild hmake => ?_
  refine (hbuild.moves (moves_linkAnnots _ fun n hn => hF n (List.mem_append_right _ hn))).bind
    fun annotations v _ hv => ?_
  obtain ⟨huv, hannotations⟩ := hv
  have hbuild := hbuild.grows huv
  have hmember := (huv.atlas.member ⟨t.atlas.members.size⟩).trans hmake
  have hwithin := forall_within_of_describes (hbuild.steps.wf ht) hannotations hbuild.lt
  have hbuild' := hbuild.modifyMember (fun m => { m with annotations := annotations })
    (.member _ _ ⟨rfl, rfl, rfl, rfl, rfl⟩ (fun _ => Or.inl) Or.inl
      (fun hold => ⟨hold.owner, hwithin, hold.body⟩) (fun _ => Or.inl) id) hbuild.isSigned
  have hlast := hbuild.member_modifyMember fun m => { m with annotations := annotations }
  refine moves_modifyAtlas (fun _ => hbuild'.adds) ⟨⟨t.atlas.members.size⟩, ?_, hbuild'.lt, ?_, ?_,
    ⟨type, t.atlas.erasure type, ?_, ?_⟩, ?_⟩
  · rw [← hst.atlas.classMembers]
    exact hbuild'.own
  · rw [hlast, hmember]
  · rw [hlast, hmember, hbuild'.steps.frame.className (Atlas.lt_of_imported howner')]
  · rw [hlast, hmember]
  · exact herases.keeps ht (hbuild'.keeps fun _ hm => by cases hm)
  · rw [hlast]
    exact hannotations

/-! ## The phase -/

/-- Members are linked one after the other; each becomes a member of the class. -/
lemma moves_forM_gains {α : Type} {owner : ClassId} {f : α → LinkM PUnit}
    {P : α → MemberId → Linker → Prop} {records : List α}
    (hstable : ∀ r m t u, Adds {owner} s t → P r m t → Adds {owner} t u → P r m u)
    (h : ∀ r ∈ records, ∀ t, Adds {owner} s t →
      Moves (Adds {owner}) F t (f r) fun _ => Gains owner (P r) t) :
    Moves (Adds {owner}) F s (records.forM f) fun _ t => ∃ ms,
      (t.atlas.cls owner).members = (s.atlas.cls owner).members ++ ms ∧
      List.Forall₂ (fun r m => P r m t) records ms := by
  induction records generalizing s with
  | nil => exact moves_pure ⟨[], (List.append_nil _).symm, .nil⟩
  | cons r records ih =>
      change Moves _ F s (f r >>= fun _ => records.forM f) _
      refine (h r (List.mem_cons_self ..) s (refl_of _ s)).bind fun _ t hst hr => ?_
      obtain ⟨m, hm, hr⟩ := hr
      have hrest := ih (fun r m u v htu => hstable r m u v (hst.trans htu))
        fun r hr u htu => h r (List.mem_cons_of_mem _ hr) u (hst.trans htu)
      refine hrest.mono fun _ u htu hu => ?_
      obtain ⟨ms, hms, hall⟩ := hu
      refine ⟨m :: ms, ?_, .cons (hstable r m t u hst hr htu) hall⟩
      rw [hms, hm, List.append_assoc, List.singleton_append]

lemma moves_linkFields {owner : ClassId} {records : List Record.Field} (hs : s.WF)
    (howner : (s.atlas.cls owner).imported = true)
    (hF : ∀ r ∈ records, ∀ n ∈ r.names, Registry.readable n.toList = false → F) :
    Moves (Adds {owner}) F s (records.forM (linkField owner)) fun _ t => ∃ fields,
      (t.atlas.cls owner).members = (s.atlas.cls owner).members ++ fields ∧
      List.Forall₂ (FieldLinked t owner) records fields := by
  have hlt := Atlas.lt_of_imported howner
  refine moves_forM_gains (P := fun r m t => FieldLinked t owner r m)
    (fun r m t u hst h htu => ?_) fun r hr t hst => ?_
  · exact h.preserves (hst.steps.wf hs) (hlt.trans_le hst.steps.frame.classesSize)
      htu.toPreserves
  · exact moves_linkField (hst.steps.wf hs) ((hst.steps.frame.isImported owner).trans howner)
      (hF r hr)

lemma moves_linkUnits {owner : ClassId} {records : List (CodeKind × Record.CodeUnit)} (hs : s.WF)
    (howner : (s.atlas.cls owner).imported = true)
    (hr : ∀ e ∈ records, e.2 ∈ s.context.codeUnits (s.atlas.cls owner).name e.1)
    (hF : ∀ e ∈ records, ∀ n ∈ e.2.names, Registry.readable n.toList = false → F) :
    Moves (Adds {owner}) F s (records.forM fun e => linkCodeUnit owner e.1 e.2) fun _ t =>
      ∃ units, (t.atlas.cls owner).members = (s.atlas.cls owner).members ++ units ∧
        List.Forall₂ (fun e m => UnitLinked t owner e.1 e.2 m) records units := by
  have hlt := Atlas.lt_of_imported howner
  refine moves_forM_gains (fun e m t u hst h htu => ?_) fun e he t hst => ?_
  · exact h.adds (hst.steps.wf hs) (hlt.trans_le hst.steps.frame.classesSize) htu
  · have hframe := hst.steps.frame
    refine moves_linkCodeUnit (hst.steps.wf hs) ((hframe.isImported owner).trans howner) ?_
      (hF e he)
    rw [hframe.context, hframe.className hlt]
    exact hr e he

/-- After the members that it had before, a class has a field and then a code unit for each
record. -/
def ClassLinked (before : List MemberId) (t : Linker) (c : ClassId) : Prop :=
  ∃ fields units, (t.atlas.cls c).members = before ++ fields ++ units ∧
    List.Forall₂ (FieldLinked t c) (t.context.fields (t.atlas.cls c).name) fields ∧
    List.Forall₂ (fun e m => UnitLinked t c e.1 e.2 m)
      (t.context.unitRecords (t.atlas.cls c).name) units

lemma ClassLinked.adds {A : Set ClassId} {before : List MemberId} {c : ClassId}
    (h : ClassLinked before t c) (ht : t.WF) (hc : c.index < t.atlas.classes.size)
    (htu : Adds A t u) (hmembers : (u.atlas.cls c).members = (t.atlas.cls c).members) :
    ClassLinked before u c := by
  obtain ⟨fields, units, heq, hfields, hunits⟩ := h
  have hframe := htu.steps.frame
  refine ⟨fields, units, hmembers.trans heq, ?_, ?_⟩
  · rw [hframe.context, hframe.className hc]
    exact hfields.imp fun _ _ h => h.preserves ht hc htu.toPreserves
  · rw [hframe.context, hframe.className hc]
    exact hunits.imp fun _ _ h => h.adds ht hc htu

/-- A class has the annotations on record. -/
def Annotated (t : Linker) (c : ClassId) : Prop :=
  List.Forall₂ (Record.Annot.Describes (Known t) (.cls c))
    (t.context.annotations (t.atlas.cls c).name) (t.atlas.cls c).annotations

lemma Annotated.of_frame {c : ClassId} (h : Annotated t c) (hc : c.index < t.atlas.classes.size)
    (hframe : Frame t u)
    (hannotations : (u.atlas.cls c).annotations = (t.atlas.cls c).annotations) : Annotated u c := by
  rw [Annotated, hframe.context, hframe.className hc, hannotations]
  exact List.Forall₂.imp (fun _ _ hdescribes => hdescribes.imp hframe.names) h

lemma linkClassMembers_eq (id : ClassId) : linkClassMembers id = (do
    let name ← nameOf id
    let context := (← get).context
    (context.fields name).forM (linkField id)
    (context.unitRecords name).forM fun e => linkCodeUnit id e.1 e.2
    let annotations ← linkAnnots (.cls id) (context.annotations name)
    modifyAtlas fun a => a.modifyClass id fun c => { c with annotations := annotations }) := by
  simp [linkClassMembers, ImportContext.unitRecords, ImportContext.codeUnits, List.forM_append]

/-- Only the annotations of a class change. -/
lemma Adds.of_annotations {id : ClassId} (himported : (s.atlas.cls id).imported = true)
    {annotations : List Annot} (hwithin : ∀ x ∈ annotations, x.Within s.atlas.extent) :
    Adds {id} s { s with
      atlas := s.atlas.modifyClass id fun c => { c with annotations := annotations } } := by
  have hkeep : ∀ {β : Type} (field : ClassNode → β),
      (∀ c, field { c with annotations := annotations } = field c) →
      ∀ c, field ((s.atlas.modifyClass id fun c => { c with annotations := annotations }).cls c) =
        field (s.atlas.cls c) := fun field h => Atlas.keep_modifyClass _ field h id
  have hedit : Edit s { s with
      atlas := s.atlas.modifyClass id fun c => { c with annotations := annotations } } :=
    .cls id _ himported (fun _ => ⟨rfl, rfl, rfl, rfl, rfl⟩) (fun v => Or.inl)
      fun hold => SamePlace.within (c := s.atlas.cls id) ⟨rfl, rfl, rfl, rfl, rfl⟩ hold
        (fun _ => Or.inl) (fun _ => Or.inl) fun x hx => Or.inr (hwithin x hx)
  refine ⟨⟨hedit.steps, hkeep ClassNode.supertypes fun _ => rfl,
    hkeep ClassNode.enclosingClass fun _ => rfl, hkeep ClassNode.typeParameters fun _ => rfl,
    fun _ _ => rfl, fun _ _ => rfl, rfl⟩, fun c _ => hkeep ClassNode.members (fun _ => rfl) c,
    fun c hc => ?_, [], queues_nil rfl fun m hm hlt => absurd hlt (not_lt.mpr hm)⟩
  rw [Atlas.cls_modifyClass, if_neg fun h => hc h.1]

/-- The annotations of a class are set to those on record. -/
lemma moves_annotate {id : ClassId} (hs : s.WF) (himported : (s.atlas.cls id).imported = true)
    (hF : ∀ n, s.context.Mentions n → Registry.readable n.toList = false → F) :
    Moves (Adds {id}) F s (do
      let annotations ← linkAnnots (.cls id) (s.context.annotations (s.atlas.cls id).name)
      modifyAtlas fun a => a.modifyClass id fun c => { c with annotations := annotations })
      fun _ t => (t.atlas.cls id).members = (s.atlas.cls id).members ∧ Annotated t id := by
  refine (moves_linkAnnots _ fun n hn => ?_).bind_along (fun t => Grows.adds)
    fun annotations t hst hdescribes => ?_
  · obtain ⟨r, hr, hn⟩ := List.mem_flatMap.mp hn
    exact hF n (.annot hr hn)
  have himported' := (hst.frame.isImported id).trans himported
  have hid : (Element.cls id).Within t.atlas.extent := Atlas.lt_of_imported himported'
  have hlast := Adds.of_annotations himported'
    (forall_within_of_describes (hst.wf hs) hdescribes hid)
  have hcls : (t.atlas.modifyClass id fun c => { c with annotations := annotations }).cls id =
      { t.atlas.cls id with annotations := annotations } := by
    rw [Atlas.cls_modifyClass, if_pos ⟨rfl, Atlas.lt_of_imported himported'⟩]
  refine moves_modifyAtlas hlast ⟨?_, ?_⟩
  · rw [hcls]
    exact hst.atlas.classMembers id
  · have hframe := hst.frame.trans hlast.steps.frame
    rw [Annotated, hframe.context, hframe.className (Atlas.lt_of_imported himported), hcls]
    exact hdescribes.imp fun _ _ h => h.imp hlast.steps.frame.names

/-- **Linking the members of a class** adds its fields, its code units and its annotations. -/
theorem moves_linkClassMembers {id : ClassId} (hs : s.WF)
    (himported : (s.atlas.cls id).imported = true)
    (hF : ∀ n, s.context.Mentions n → Registry.readable n.toList = false → F) :
    Moves (Adds {id}) F s (linkClassMembers id) fun _ t =>
      ClassLinked (s.atlas.cls id).members t id ∧ Annotated t id := by
  rw [linkClassMembers_eq]
  refine (moves_nameOf id).bind fun name s' _ hname => ?_
  obtain ⟨rfl, rfl⟩ := hname
  refine moves_get_bind ?_
  refine (moves_linkFields hs himported fun r hr n hn => hF n (.field hr hn)).bind
    fun _ t hst hfields => ?_
  obtain ⟨fields, hmembers, hfields⟩ := hfields
  have hid := Atlas.lt_of_imported himported
  have himported' := (hst.steps.frame.isImported id).trans himported
  have ht := hst.steps.wf hs
  refine (moves_linkUnits ht himported' (fun e he => ?_) fun e he n hn =>
    hF n (.codeUnit (ImportContext.mem_unitRecords.mp he) hn)).bind fun _ u htu hunits => ?_
  · rw [hst.steps.frame.context, hst.steps.frame.className hid]
    exact ImportContext.mem_unitRecords.mp he
  obtain ⟨units, hmembers', hunits⟩ := hunits
  have hframe := hst.steps.frame.trans htu.steps.frame
  have hlinked : ClassLinked (s'.atlas.cls id).members u id := by
    refine ⟨fields, units, by rw [hmembers', hmembers], ?_, ?_⟩
    · rw [hframe.context, hframe.className hid]
      exact hfields.imp fun _ _ h =>
        h.preserves ht (hid.trans_le hst.steps.frame.classesSize) htu.toPreserves
    · rwa [hframe.context, hframe.className hid]
  rw [← hframe.context, ← hframe.className hid]
  refine (moves_annotate (htu.steps.wf ht) ((hframe.isImported id).trans himported)
    (by rwa [hframe.context])).mono fun _ v huv hv => ⟨?_, hv.2⟩
  exact hlinked.adds (htu.steps.wf ht) (hid.trans_le hframe.classesSize) huv hv.1

/-- The members of all classes are linked, once the phase was checked. -/
def membersBody : LinkM Unit := do
  (← get).atlas.imported.toList.forM linkClassMembers

lemma linkMembers_eq : linkMembers = (do advance .hierarchy .members; membersBody) :=
  rfl

/-- **Every member on record is linked**, and so are the annotations of classes. -/
theorem moves_membersBody (hs : s.WF) (hnodup : s.atlas.imported.toList.Nodup)
    (himported : ∀ c ∈ s.atlas.imported.toList, (s.atlas.cls c).imported = true)
    (hF : ∀ n, s.context.Mentions n → Registry.readable n.toList = false → F) :
    Moves (Adds Set.univ) F s membersBody fun _ t =>
      ∀ c ∈ s.atlas.imported.toList,
        ClassLinked (s.atlas.cls c).members t c ∧ Annotated t c := by
  refine moves_get_bind ?_
  have hdisjoint : s.atlas.imported.toList.Pairwise
      fun c d => Disjoint ({c} : Set ClassId) {d} :=
    hnodup.imp fun hne => Set.disjoint_singleton.mpr hne
  refine ((Moves.forM_disjoint (P := fun c t => c.index < t.atlas.classes.size ∧
      ClassLinked (s.atlas.cls c).members t c ∧ Annotated t c) Adds.mono hdisjoint
    (fun c t u A hst h htu hA => ?_) fun c hc t A hst hA => ?_).mono
    fun _ t _ h c hc => (h c hc).2).along fun t => Adds.mono _ _ _ _ (Set.subset_univ _)
  · obtain ⟨hlt, hlinked, hannotated⟩ := h
    have hc := Set.disjoint_singleton_left.mp hA
    exact ⟨hlt.trans_le htu.steps.frame.classesSize,
      hlinked.adds (hst.steps.wf hs) hlt htu (htu.members c hc),
      hannotated.of_frame hlt htu.steps.frame (htu.annotations c hc)⟩
  · have hframe := hst.steps.frame
    have himported' := (hframe.isImported c).trans (himported c hc)
    rw [← hst.members c (Set.disjoint_singleton_left.mp hA)]
    exact (moves_linkClassMembers (hst.steps.wf hs) himported' (by rwa [hframe.context])).mono
      fun _ u htu hu =>
        ⟨(Atlas.lt_of_imported himported').trans_le htu.steps.frame.classesSize, hu⟩

end Linker

end ClassAtlas
