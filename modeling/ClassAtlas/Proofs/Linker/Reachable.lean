import ClassAtlas.Proofs.Linker.Runs

/-!
# The atlases there can be

Linking asks for classes all the time, also in the middle of a step.  What holds of asking has to
hold of every atlas on the way, not only of those between two requests.

* `Atlas.Reachable` — the atlases that asking for classes leads to, with any changes in between that
  leave names and the types of classes as they are.
* `Atlas.Reachable.named` — in all of them classes and names belong together.
* `Asks` — a step that only asks and makes such changes.
* `reachable_run` — **every atlas of a run can be reached.**
-/

namespace ClassAtlas

namespace Atlas

/-- The atlases that asking for classes leads to, with any changes in between that leave names and
the types of classes as they are. -/
inductive Reachable : Atlas → Prop
  | empty : Reachable empty
  | intern {a a' : Atlas} {name : String} {id : ClassId} (ha : Reachable a)
      (h : a.intern name = .ok (id, a')) : Reachable a'
  | edit {a a' : Atlas} (ha : Reachable a) (hnames : a'.names = a.names)
      (hregistry : a'.registry = a.registry) (hsize : a'.classes.size = a.classes.size)
      (hcls : ∀ c, (a'.cls c).identity = (a.cls c).identity) : Reachable a'

theorem Reachable.named {a : Atlas} (h : Reachable a) : Named a := by
  induction h with
  | empty => exact registered_empty.named
  | intern _ h ih => exact ih.intern h
  | edit _ hnames hregistry hsize hcls ih => exact ih.of_identity hsize hnames hregistry hcls

lemma Reachable.modifyClass {a : Atlas} (ha : a.Reachable) (id : ClassId)
    {change : ClassNode → ClassNode} (h : ∀ c, (change c).identity = c.identity) :
    (a.modifyClass id change).Reachable :=
  ha.edit rfl rfl (a.size_modifyClass id change) (a.keep_modifyClass ClassNode.identity h id)

lemma Reachable.addMember {a : Atlas} (ha : a.Reachable) (make : MemberId → Member) :
    (a.addMember make).2.Reachable := by
  have hpush : Reachable { a with members := a.members.push (make ⟨a.members.size⟩) } :=
    ha.edit rfl rfl rfl fun _ => rfl
  exact hpush.modifyClass _ fun _ => rfl

end Atlas

namespace Linker

/-! ## Asking in a state -/

section Intern

variable {s : Linker} {name : String}

lemma intern_of_ok {id : ClassId} {a : Atlas} (h : s.atlas.intern name = .ok (id, a)) :
    (intern name).run s = .ok id { s with atlas := a } := by
  change (get >>= _ : LinkM ClassId) s = _
  have hget : (get : LinkM Linker) s = .ok s s := rfl
  rw [bind_of_ok hget, h]
  rfl

lemma intern_of_error {e : ModelError} (h : s.atlas.intern name = .error e) :
    (intern name).run s = .error e s := by
  change (get >>= _ : LinkM ClassId) s = _
  have hget : (get : LinkM Linker) s = .ok s s := rfl
  rw [bind_of_ok hget, h]
  rfl

end Intern

/-! ## Steps that only ask -/

variable {α : Type}

/-- The step does what it does by asking for classes and by changes that leave names and the types
of classes as they are. -/
abbrev Asks (x : LinkM α) : Prop :=
  Leads (Keeping fun s => s.atlas.Reachable) x

lemma asks_modify {f : Linker → Linker} (h : ∀ s, (f s).atlas = s.atlas) :
    Asks (modify f : LinkM PUnit) := by
  intro s hs
  change (f s).atlas.Reachable
  rw [h]
  exact hs

lemma asks_intern (name : String) : Asks (intern name) := by
  intro s
  rcases h : s.atlas.intern name with e | ⟨id, a⟩
  · rw [after_of_error (x := intern name) (intern_of_error h)]
    exact id
  · rw [after_of_ok (x := intern name) (intern_of_ok h)]
    exact fun hs => hs.intern h

lemma asks_modifyAtlas {change : Atlas → Atlas}
    (h : ∀ a : Atlas, a.Reachable → (change a).Reachable) :
    Asks (modifyAtlas change) :=
  fun s hs => h s.atlas hs

lemma asks_addToAtlas {add : Atlas → α × Atlas}
    (h : ∀ a : Atlas, a.Reachable → (add a).2.Reachable) :
    Asks (addToAtlas add) :=
  fun s hs => h s.atlas hs

lemma asks_linkVariable (scope : Scope) (name : String) : Asks (linkVariable scope name) := by
  refine leads_get.bind fun s => ?_
  split
  · exact leads_pure _
  · split
    · exact leads_pure _
    · refine (asks_addToAtlas fun a ha => ?_).bind fun id => ?_
      · exact ha.edit rfl rfl rfl fun _ => rfl
      · exact Leads.bind (asks_modify fun _ => rfl) fun _ => leads_pure _

mutual

lemma asks_linkType (scope : Scope) : ∀ sig, Asks (linkType scope sig)
  | .cls name => by
      rw [linkType]
      exact (asks_intern name).bind fun _ => leads_pure _
  | .parameterized raw arguments => by
      rw [linkType]
      exact (asks_intern raw).bind fun _ =>
        (asks_linkTypes scope arguments).bind fun _ => leads_pure _
  | .variable name => by
      rw [linkType]
      exact (asks_linkVariable scope name).bind fun _ => leads_pure _
  | .wildcard upper lower => by
      rw [linkType]
      exact (asks_linkTypes scope upper).bind fun _ =>
        (asks_linkTypes scope lower).bind fun _ => leads_pure _
  | .genericArray component => by
      rw [linkType]
      exact (asks_linkType scope component).bind fun _ => leads_get.bind fun _ =>
        (asks_intern _).bind fun _ => leads_pure _

lemma asks_linkTypes (scope : Scope) : ∀ sigs, Asks (linkTypes scope sigs)
  | [] => by
      rw [linkTypes]
      exact leads_pure _
  | sig :: sigs => by
      rw [linkTypes]
      exact (asks_linkType scope sig).bind fun _ =>
        (asks_linkTypes scope sigs).bind fun _ => leads_pure _

end

lemma asks_modifyClass (id : ClassId) {change : ClassNode → ClassNode}
    (h : ∀ c, (change c).identity = c.identity) :
    Asks (modifyAtlas fun a => a.modifyClass id change) :=
  asks_modifyAtlas fun _ ha => ha.modifyClass id h

lemma asks_modifyMember (id : MemberId) (change : Member → Member) :
    Asks (modifyAtlas fun a => a.modifyMember id change) :=
  asks_modifyAtlas fun _ ha => ha.edit rfl rfl rfl fun _ => rfl

lemma asks_declare (owner : VarOwner) (parameters : List TypeParam) :
    Asks (declare owner parameters) :=
  Leads.mapM fun _ => asks_addToAtlas fun _ ha => ha.edit rfl rfl rfl fun _ => rfl

lemma asks_linkBounds (scope : Scope) (declared : List VarId) (parameters : List TypeParam) :
    Asks (linkBounds scope declared parameters) :=
  Leads.forM fun _ => (asks_linkTypes scope _).bind fun _ =>
    asks_modifyAtlas fun _ ha => ha.edit rfl rfl rfl fun _ => rfl

mutual

lemma asks_linkValue : ∀ value, Asks (linkValue value)
  | .cls typeName => by
      rw [linkValue]
      exact (asks_intern _).bind fun _ => leads_pure _
  | .enumConstant enumType name => by
      rw [linkValue]
      exact (asks_intern _).bind fun _ => leads_pure _
  | .nested type properties => by
      rw [linkValue]
      exact (asks_intern _).bind fun _ =>
        (asks_linkProperties properties).bind fun _ => leads_pure _
  | .array items => by
      rw [linkValue]
      exact (asks_linkValues items).bind fun _ => leads_pure _
  | .boolean _ | .byte _ | .char _ | .short _ | .int _ | .long _ | .float _ | .double _
  | .string _ => by
      rw [linkValue]
      exact leads_pure _

lemma asks_linkProperties : ∀ properties, Asks (linkProperties properties)
  | [] => by
      rw [linkProperties]
      exact leads_pure _
  | (name, value) :: rest => by
      rw [linkProperties]
      exact (asks_linkValue value).bind fun _ =>
        (asks_linkProperties rest).bind fun _ => leads_pure _

lemma asks_linkValues : ∀ values, Asks (linkValues values)
  | [] => by
      rw [linkValues]
      exact leads_pure _
  | value :: rest => by
      rw [linkValues]
      exact (asks_linkValue value).bind fun _ =>
        (asks_linkValues rest).bind fun _ => leads_pure _

end

lemma asks_linkAnnots (element : Element) (records : List Record.Annot) :
    Asks (linkAnnots element records) :=
  Leads.mapM fun r => (asks_intern r.type).bind fun _ =>
    (asks_linkProperties r.properties).bind fun _ => leads_pure _

lemma asks_declareClass (id : ClassId) : Asks (declareClass id) := by
  rw [declareClass_eq]
  refine (leads_nameOf id).bind fun name => leads_get.bind fun s => Leads.bind ?_ fun _ => ?_
  · rcases s.context.enclosingClass name with _ | enclosing
    · exact leads_pure _
    · exact (asks_intern enclosing).bind fun _ =>
        asks_modifyClass id fun _ => rfl
  · refine (asks_declare _ _).bind fun _ => Leads.bind ?_ fun _ => leads_pure _
    exact asks_modifyClass id fun _ => rfl

lemma asks_linkSupertypes (id : ClassId) : Asks (linkSupertypes id) := by
  refine (leads_nameOf id).bind fun name => leads_get.bind fun s => ?_
  refine Leads.bind ?_ fun superclass => (asks_linkTypes _ _).bind fun interfaces =>
    asks_modifyAtlas fun a ha => ?_
  · rcases s.context.superclass name with _ | sig
    · exact leads_pure _
    · exact (asks_linkType _ sig).bind fun _ => leads_pure _
  · obtain ⟨hsize, hframe⟩ := setSupertypes_frame id superclass interfaces a
    exact ha.edit (by rw [hframe]) (by rw [hframe]) hsize
      (keep_setSupertypes ClassNode.identity (fun _ _ => rfl) (fun _ _ _ => rfl) id _ _ a)

lemma asks_hierarchyBody : Asks hierarchyBody :=
  leads_get.bind fun _ =>
    (Leads.mapM fun id => (asks_declareClass id).bind fun _ => leads_pure _).bind fun _ =>
      (Leads.forM fun _ => asks_linkBounds _ _ _).bind fun _ =>
        Leads.forM asks_linkSupertypes

lemma asks_linkField (owner : ClassId) (r : Record.Field) : Asks (linkField owner r) :=
  (asks_linkType _ _).bind fun _ => leads_get.bind fun _ =>
    (asks_addToAtlas fun _ ha => ha.addMember _).bind fun _ =>
      (asks_linkAnnots _ _).bind fun _ => asks_modifyMember _ _

lemma asks_linkParams (scope : Scope) (member : MemberId) (records : List Record.Param) :
    Asks (linkParams scope member records) :=
  Leads.mapM fun _ => (asks_linkType _ _).bind fun _ => leads_get.bind fun _ =>
    (asks_linkAnnots _ _).bind fun _ => leads_pure _

lemma asks_linkTypeUses (records : List Record.TypeUse) : Asks (linkTypeUses records) :=
  Leads.mapM fun _ => (asks_intern _).bind fun _ => leads_pure _

lemma asks_linkCodeUnit (owner : ClassId) (kind : CodeKind) (r : Record.CodeUnit) :
    Asks (linkCodeUnit owner kind r) := by
  refine (asks_addToAtlas fun _ ha => ha.addMember _).bind fun id => ?_
  refine (asks_declare _ _).bind fun _ => (asks_modifyMember _ _).bind fun _ => ?_
  refine (asks_linkBounds _ _ _).bind fun _ => (asks_linkParams _ _ _).bind fun _ => ?_
  refine (asks_linkType _ _).bind fun _ => leads_get.bind fun _ => ?_
  refine (Leads.mapM asks_intern).bind fun _ => ?_
  refine (Leads.mapM fun _ => (Leads.mapM asks_intern).bind fun _ => leads_pure _).bind
    fun _ => ?_
  refine (asks_linkTypeUses _).bind fun _ => (asks_linkTypeUses _).bind fun _ => ?_
  refine (asks_linkAnnots _ _).bind fun _ => leads_get.bind fun _ => ?_
  refine Leads.bind ?_ fun _ => asks_modify fun _ => rfl
  exact asks_modifyAtlas fun _ ha => ha.edit rfl rfl rfl fun _ => rfl

lemma asks_membersBody : Asks membersBody := by
  refine leads_get.bind fun _ => Leads.forM fun id => ?_
  refine (leads_nameOf id).bind fun _ => leads_get.bind fun _ => ?_
  refine (Leads.forM (asks_linkField id)).bind fun _ => ?_
  refine (Leads.forM (asks_linkCodeUnit id _)).bind fun _ => ?_
  refine (Leads.forM (asks_linkCodeUnit id _)).bind fun _ => ?_
  refine (Leads.forM (asks_linkCodeUnit id _)).bind fun _ => ?_
  exact (asks_linkAnnots _ _).bind fun _ =>
    asks_modifyClass id fun _ => rfl

lemma asks_accessesBody : Asks accessesBody :=
  leads_accessesBody asks_intern (fun _ hs => hs)
    (fun _ => asks_addToAtlas fun _ ha => ha.edit rfl rfl rfl fun _ => rfl)
    fun _ _ => asks_modifyMember _ _

lemma asks_advance (expected next : Phase) : Asks (advance expected next) := by
  intro s
  by_cases h : s.phase = expected
  · rw [after_of_ok (advance_of_phase h)]
    exact id
  · rw [after_of_error (advance_of_ne h)]
    exact id

lemma asks_step : ∀ r : Request, Asks r.step
  | .hierarchy => (Leads.bind (asks_advance _ _) fun _ => asks_hierarchyBody).bind
      fun _ => leads_pure _
  | .members => (Leads.bind (asks_advance _ _) fun _ => asks_membersBody).bind
      fun _ => leads_pure _
  | .accesses => (Leads.bind (asks_advance _ _) fun _ => asks_accessesBody).bind
      fun _ => leads_pure _
  | .cls name => (asks_intern name).bind fun _ => leads_pure _

lemma reachable_register {files : Files} {options : ImportOptions} {a a' : Atlas}
    {h : Record.Header} (ha : a.Reachable) (hok : register files options a h = .ok a') :
    a'.Reachable := by
  obtain ⟨id, b, hintern, ⟨-, rfl⟩ | ⟨-, change, hchange, -, rfl⟩⟩ := register_eq_ok hok
  · exact ha.intern hintern
  · have hmarked : (b.modifyClass id change).Reachable :=
      (ha.intern hintern).modifyClass id fun c => (hchange c).identity
    exact hmarked.edit rfl rfl rfl fun _ => rfl

lemma reachable_foldlM {files : Files} {options : ImportOptions} :
    ∀ {headers : List Record.Header} {a a' : Atlas}, a.Reachable →
      headers.foldlM (register files options) a = .ok a' → a'.Reachable
  | [], a, a', ha, hok => by
      cases hok
      exact ha
  | h :: headers, a, a', ha, hok => by
      rw [List.foldlM_cons] at hok
      rcases hb : register files options a h with e | b
      · rw [hb] at hok
        cases hok
      · rw [hb] at hok
        exact reachable_foldlM (reachable_register ha hb) hok

/-- **Every atlas of a run can be reached.** -/
theorem reachable_run {context : ImportContext} {options : ImportOptions} {files : Files}
    {s : Linker} (h : start context options files = .ok s) (rs : List Request) :
    (s.run rs).2.atlas.Reachable := by
  have hstart : s.atlas.Reachable := by
    rcases hall : context.headers.foldlM (register files options) Atlas.empty with e | a
    · rw [start, hall] at h
      cases h
    · rw [start, hall] at h
      cases h
      exact reachable_foldlM .empty hall
  clear h
  induction rs generalizing s with
  | nil => exact hstart
  | cons r rs ih =>
      refine ih ?_
      rw [perform_snd]
      exact asks_step r s hstart

end Linker

end ClassAtlas
