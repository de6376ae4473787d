import ClassAtlas.Proofs.Linker.Building

/-!
# Linking code units

Linking a code unit is cut into pieces: declaring its type parameters, linking its signature and
what its body mentions, and completing the member.  Each piece says what it leaves to the next.

* `UnitDeclared` — the type parameters of a code unit are declared.
* `UnitContent` — its signature and its body are what its record says.
* `UnitReady` — both, so that it may be completed.
* `UnitLinked` — a code unit is what its record says, as far as names and erasures go.
* `moves_linkCodeUnit` — **linking a code unit adds it to its class**, linked and queued.
-/

namespace ClassAtlas

namespace Linker

variable {F : Prop} {s t u : Linker}

/-! ## The pieces -/

/-- Declares the type parameters of a code unit. -/
def declareUnit (scope : Scope) (id : MemberId) (parameters : List TypeParam) :
    LinkM (List VarId) := do
  let vars ← declare (.codeUnit id) parameters
  modifyAtlas fun a => a.modifyMember id fun m =>
    m.modifyCodeUnit fun u => { u with typeParameters := vars }
  linkBounds scope vars parameters
  return vars

/-- Links what the body and the header of a code unit mention, other than its signature. -/
def linkMentioned (id : MemberId) (unit : CodeUnit) (r : Record.CodeUnit) :
    LinkM (CodeUnit × List Annot) := do
  let throws ← r.throws.mapM intern
  let catchBlocks ← r.catchBlocks.mapM fun b =>
    return { types := ← b.types.mapM intern, line := b.line }
  let instanceofChecks ← linkTypeUses r.instanceofChecks
  let classObjects ← linkTypeUses r.classObjects
  let annotations ← linkAnnots (.member id) r.annotations
  return ({ unit with
    throws := throws
    firstLine := r.firstLine
    catchBlocks := catchBlocks
    instanceofChecks := instanceofChecks
    classObjects := classObjects }, annotations)

/-- Completes a code unit and queues it. -/
def completeUnit (owner : ClassId) (kind : CodeKind) (r : Record.CodeUnit) (id : MemberId)
    (rawReturns : ClassId) (unit : CodeUnit) (annotations : List Annot) : LinkM Unit := do
  let a := (← get).atlas
  let ownerName := (a.cls owner).name
  let descriptor := r.descriptor.getD (methodDescriptor
    (unit.parameters.map fun p => (a.cls p.raw).name) (a.cls rawReturns).name)
  modifyAtlas fun a => a.modifyMember id fun m =>
    { m with
      fullName := codeUnitName ownerName r.name
        (unit.parameters.map fun p => (a.cls p.raw).fullName)
      descriptor := descriptor
      annotations := annotations
      body := .code kind unit }
  modify fun s => { s with pending := s.pending ++ [(id, ⟨ownerName, r.name, descriptor⟩)] }

lemma linkCodeUnit_eq (owner : ClassId) (kind : CodeKind) (r : Record.CodeUnit) :
    linkCodeUnit owner kind r = (do
      let id ← addToAtlas fun a => a.addMember fun id =>
        { id := id
          owner := owner
          name := r.name
          descriptor := ""
          fullName := ""
          modifiers := r.modifiers
          annotations := []
          body := .code .method {} }
      let scope : Scope := { cls := owner, codeUnit := some id }
      let vars ← declareUnit scope id r.typeParameters
      let parameters ← linkParams scope id r.parameters
      let returns ← linkType scope r.returns
      let rawReturns := (← get).atlas.erasure returns
      let (unit, annotations) ← linkMentioned id
        { returns := some returns
          rawReturns := some rawReturns
          parameters := parameters
          typeParameters := vars } r
      completeUnit owner kind r id rawReturns unit annotations) := by
  simp only [linkCodeUnit, declareUnit, linkMentioned, completeUnit, bind_assoc, pure_bind]

/-! ## Types, parameters and what a body mentions -/

/-- A type is what a signature says, and its erasure is known. -/
structure Erases (t : Linker) (scope : Scope) (sig : TypeSig) (type : TypeRef) (raw : ClassId) :
    Prop extends TypeLinked t scope sig type where
  raw : raw = t.atlas.erasure type

lemma Erases.keeps {scope : Scope} {sig : TypeSig} {type : TypeRef} {raw : ClassId}
    (h : Erases t scope sig type raw) (ht : t.WF) (htu : scope.Keeps t u) :
    Erases u scope sig type raw :=
  ⟨h.toTypeLinked.keeps ht htu, h.raw.trans (ht.closed.erasure_eq htu.typeVar h.fits).symm⟩

lemma Erases.lt {scope : Scope} {sig : TypeSig} {type : TypeRef} {raw : ClassId}
    (h : Erases t scope sig type raw) (ht : t.WF) : raw.index < t.atlas.classes.size :=
  h.raw ▸ ht.closed.erasure_lt h.fits

lemma Erases.classType {scope : Scope} {sig : TypeSig} {type : TypeRef} {raw : ClassId}
    (h : Erases t scope sig type raw) (ht : t.WF) (hframe : Frame t u) :
    (u.atlas.cls raw).type = (t.atlas.cls raw).type :=
  hframe.type raw (h.lt ht)

/-- A parameter is what its record says. -/
structure ParamLinked (t : Linker) (scope : Scope) (id : MemberId) (r : Record.Param) (p : Param) :
    Prop extends Erases t scope r.type p.type p.raw where
  annotations : List.Forall₂ (Record.Annot.Describes (Known t) (.parameter id p.position))
    r.annotations p.annotations

lemma ParamLinked.keeps {scope : Scope} {id : MemberId} {r : Record.Param} {p : Param}
    (h : ParamLinked t scope id r p) (ht : t.WF) (htu : scope.Keeps t u) :
    ParamLinked u scope id r p :=
  ⟨h.toErases.keeps ht htu, h.annotations.imp fun _ _ hx => hx.imp htu.names⟩

lemma moves_linkParams {scope : Scope} {id : MemberId} {records : List Record.Param} (hs : s.WF)
    (hscope : scope.owner.Within s.atlas.extent)
    (hF : ∀ n ∈ records.flatMap Record.Param.names, Registry.readable n.toList = false → F) :
    Moves Grows F s (linkParams scope id records) fun parameters t =>
      List.Forall₂ (ParamLinked t scope id) records parameters ∧
        parameters.map (·.position) = List.range parameters.length := by
  have hloop : Moves Grows F s (linkParams scope id records) fun parameters t =>
      List.Forall₂ (fun e p => ParamLinked t scope id e.1 p ∧ p.position = e.2) records.zipIdx
        parameters := by
    refine Moves.mapM (fun _ _ _ _ hst h htu =>
      ⟨h.1.keeps (hst.wf hs) (htu.keeps scope), h.2⟩) fun e he t hst => ?_
    have hnames : ∀ n ∈ e.1.names, Registry.readable n.toList = false → F := fun n hn =>
      hF n (List.mem_flatMap_of_mem (List.fst_mem_of_mem_zipIdx he) hn)
    have ht := hst.wf hs
    refine (moves_linkType _ _ t ht (hscope.mono hst.atlas.extent) fun n hn =>
      hnames n (List.mem_append_left _ hn)).bind fun type u htu htype => moves_get_bind ?_
    refine (moves_linkAnnots _ fun n hn => hnames n (List.mem_append_right _ hn)).bind
      fun annotations v huv hannotations => moves_pure ⟨⟨?_, hannotations⟩, rfl⟩
    exact Erases.keeps ⟨htype, rfl⟩ (htu.wf ht) (huv.keeps scope)
  refine hloop.mono fun parameters t _ hall => ⟨?_, ?_⟩
  · rw [← List.zipIdx_map_fst 0 records]
    exact List.forall₂_map_left_iff.mpr (hall.imp fun _ _ h => h.1)
  · rw [hall.map_eq_map fun _ _ h => h.2, List.zipIdx_map_snd, ← hall.length_eq,
      List.length_zipIdx, List.range_eq_range']

/-- A use of a type is what its record says. -/
structure TypeUseLinked (t : Linker) (r : Record.TypeUse) (x : TypeUse) : Prop where
  target : Known t r.type x.target
  line : x.line = r.line

lemma moves_linkTypeUses {records : List Record.TypeUse}
    (hF : ∀ n ∈ records.map (·.type), Registry.readable n.toList = false → F) :
    Moves Grows F s (linkTypeUses records) fun uses t =>
      List.Forall₂ (TypeUseLinked t) records uses := by
  refine Moves.mapM (fun _ _ _ _ _ h htu => ⟨h.target.grows htu, h.line⟩) fun r hr t _ => ?_
  exact (moves_intern (hF r.type (List.mem_map_of_mem hr))).bind
    fun _ _ _ h => moves_pure ⟨h, rfl⟩

/-- A `catch` block is what its record says. -/
structure CatchLinked (t : Linker) (r : Record.CatchBlock) (b : CatchBlock) : Prop where
  types : List.Forall₂ (Known t) r.types b.types
  line : b.line = r.line

/-- What the header and the body of a code unit mention, other than its signature, is what its
record says. -/
structure Mentioned (t : Linker) (r : Record.CodeUnit) (unit : CodeUnit) : Prop where
  throws : List.Forall₂ (Known t) r.throws unit.throws
  firstLine : unit.firstLine = r.firstLine
  catchBlocks : List.Forall₂ (CatchLinked t) r.catchBlocks unit.catchBlocks
  instanceofChecks : List.Forall₂ (TypeUseLinked t) r.instanceofChecks unit.instanceofChecks
  classObjects : List.Forall₂ (TypeUseLinked t) r.classObjects unit.classObjects

lemma Mentioned.imp {r : Record.CodeUnit} {unit : CodeUnit} (h : Mentioned t r unit)
    (hnames : ∀ n id, Known t n id → Known u n id) : Mentioned u r unit where
  throws := h.throws.imp hnames
  firstLine := h.firstLine
  catchBlocks := h.catchBlocks.imp fun _ _ hb => ⟨hb.types.imp hnames, hb.line⟩
  instanceofChecks := h.instanceofChecks.imp fun _ _ hx => ⟨hnames _ _ hx.target, hx.line⟩
  classObjects := h.classObjects.imp fun _ _ hx => ⟨hnames _ _ hx.target, hx.line⟩

/-- What a code unit has before its body is looked at. -/
def signature (u : CodeUnit) :
    Option TypeRef × Option ClassId × List Param × List VarId × List AccessId :=
  (u.returns, u.rawReturns, u.parameters, u.typeParameters, u.accesses)

lemma moves_linkMentioned {id : MemberId} {unit : CodeUnit} {r : Record.CodeUnit}
    (hF : ∀ n ∈ r.names, Registry.readable n.toList = false → F) :
    Moves Grows F s (linkMentioned id unit r) fun answer t =>
      signature answer.1 = signature unit ∧ Mentioned t r answer.1 ∧
        List.Forall₂ (Record.Annot.Describes (Known t) (.member id)) r.annotations answer.2 := by
  unfold linkMentioned
  refine (moves_mapM_intern fun n hn => hF n ?_).bind fun throws t _ hthrows => ?_
  · simp [Record.CodeUnit.names, hn]
  have hcatch : ∀ b t, b ∈ r.catchBlocks → Moves Grows F t (do
      return { types := ← b.types.mapM intern, line := b.line }) fun c u => CatchLinked u b c := by
    intro b t hb
    refine (moves_mapM_intern fun n hn => hF n ?_).bind fun _ _ _ h => moves_pure ⟨h, rfl⟩
    have hmem : n ∈ r.catchBlocks.flatMap (·.types) := List.mem_flatMap_of_mem hb hn
    simp only [Record.CodeUnit.names, List.mem_append, hmem, true_or, or_true]
  refine (Moves.mapM (fun _ _ _ _ _ h htu => ⟨h.types.imp (Known.grows htu), h.line⟩)
    fun b hb u _ => hcatch b u hb).bind fun catchBlocks u htu hcatchBlocks => ?_
  refine (moves_linkTypeUses fun n hn => hF n ?_).bind fun instanceofChecks v huv hchecks => ?_
  · simp only [Record.CodeUnit.names, List.mem_append, hn, true_or, or_true]
  refine (moves_linkTypeUses fun n hn => hF n ?_).bind fun classObjects w hvw hobjects => ?_
  · simp only [Record.CodeUnit.names, List.mem_append, hn, true_or, or_true]
  refine (moves_linkAnnots _ fun n hn => hF n ?_).bind fun annotations x hwx hannotations => ?_
  · simp only [Record.CodeUnit.names, List.mem_append, hn, or_true]
  have hvx := hvw.trans hwx
  have hux := huv.trans hvx
  refine moves_pure ⟨rfl, ⟨?_, rfl, ?_, ?_, ?_⟩, hannotations⟩
  · exact hthrows.imp (Known.grows (htu.trans hux))
  · exact hcatchBlocks.imp fun _ _ h => ⟨h.types.imp (Known.grows hux), h.line⟩
  · exact hchecks.imp fun _ _ h => ⟨h.target.grows hvx, h.line⟩
  · exact hobjects.imp fun _ _ h => ⟨h.target.grows hwx, h.line⟩

/-! ## Type parameters -/

/-- The type parameters of a code unit are declared, and nothing else of it is linked. -/
structure UnitDeclared (t : Linker) (scope : Scope) (id : MemberId) (parameters : List TypeParam)
    (vars : List VarId) : Prop where
  body : (t.atlas.member id).body = .code .method { typeParameters := vars }
  declared : ∀ v ∈ vars, Declared t v
  name : List.Forall₂ (fun p v => (t.atlas.typeVar v).name = p.name) parameters vars
  bounds : List.Forall₂ (BoundsLinked t scope) parameters vars

lemma UnitDeclared.isField {scope : Scope} {id : MemberId} {parameters : List TypeParam}
    {vars : List VarId} (h : UnitDeclared t scope id parameters vars) :
    (t.atlas.member id).isField = false := by
  rw [Member.isField, Member.codeKind?, h.body]
  rfl

lemma UnitDeclared.grows {scope : Scope} {id : MemberId} {parameters : List TypeParam}
    {vars : List VarId} (h : UnitDeclared t scope id parameters vars) (ht : t.WF)
    (htu : Grows t u) : UnitDeclared u scope id parameters vars := by
  have hvar : ∀ v ∈ vars, u.atlas.typeVar v = t.atlas.typeVar v :=
    fun v hv => htu.atlas.typeVar v (h.declared v hv).1
  refine ⟨by rw [htu.atlas.member]; exact h.body, fun v hv => htu.declared (h.declared v hv),
    h.name.imp_mem fun p _ v hv hp => by rw [hvar v hv]; exact hp,
    h.bounds.imp_mem fun p _ v hv hp => ?_⟩
  exact hp.of_same ht htu.frame (scope.same_of_grows htu.atlas) (hvar v hv)

lemma modifyCodeUnit_typeParameters {m : Member} (hbody : m.body = .code .method {})
    (vars : List VarId) :
    m.modifyCodeUnit (fun c => { c with typeParameters := vars }) =
      { m with body := .code .method { typeParameters := vars } } := by
  rw [Member.modifyCodeUnit, hbody]

lemma sameMember_typeParameters {m : Member} (hbody : m.body = .code .method {})
    (vars : List VarId) :
    SameMember m { m with body := .code .method { typeParameters := vars } } :=
  ⟨rfl, rfl, rfl, rfl, by simp [Member.isField, Member.codeKind?, hbody]⟩

/-- A code unit of which nothing else is linked gets its type parameters. -/
lemma Edit.typeParameters {m : MemberId} {vars : List VarId}
    (hbody : (t.atlas.member m).body = .code .method {}) (hdeclared : ∀ v ∈ vars, Declared t v) :
    Edit t { t with atlas := t.atlas.modifyMember m fun x =>
      x.modifyCodeUnit fun c => { c with typeParameters := vars } } := by
  have hchange := modifyCodeUnit_typeParameters hbody vars
  refine .member _ _ ?_ ?_ ?_ ?_ ?_ ?_
  · rw [hchange]
    exact sameMember_typeParameters hbody vars
  · rw [hchange]
    exact fun v hv => Or.inr (hdeclared v hv)
  · rw [hchange]
    exact fun hkind => absurd hkind (by simp [Member.isConstructor, Member.codeKind?])
  · rw [hchange]
    refine fun hold => ⟨hold.owner, hold.annotations, ?_⟩
    constructor <;> simp
    exact fun v hv => (hdeclared v hv).1
  · rw [hchange]
    exact fun i hi => absurd hi List.not_mem_nil
  · rw [hchange]
    exact fun _ => rfl

lemma moves_declareUnit {owner : ClassId} {scope : Scope} {parameters : List TypeParam}
    (hs : s.WF) (hscope : scope.owner = .codeUnit ⟨s.atlas.members.size⟩)
    (hbuild : Building s owner t)
    (hbody : (t.atlas.member ⟨s.atlas.members.size⟩).body = .code .method {})
    (hF : ∀ n ∈ parameters.flatMap TypeParam.names, Registry.readable n.toList = false → F) :
    Moves (Keeping (Adds {owner} s)) F t (declareUnit scope ⟨s.atlas.members.size⟩ parameters)
      fun vars u => Building s owner u ∧
        SameMember (t.atlas.member ⟨s.atlas.members.size⟩)
          (u.atlas.member ⟨s.atlas.members.size⟩) ∧
        UnitDeclared u scope ⟨s.atlas.members.size⟩ parameters vars := by
  unfold declareUnit
  set id : MemberId := ⟨s.atlas.members.size⟩
  have howner : (VarOwner.codeUnit id).Within t.atlas.extent := hbuild.lt
  refine (hbuild.moves (moves_declare parameters t howner)).bind fun vars u _ hvars => ?_
  obtain ⟨htu, hvars⟩ := hvars
  have hold := hbuild.steps.frame.typeVarsSize
  have hdeclared := hvars.declared (hbuild.steps.wf hs)
  have hbuild := hbuild.grows htu
  have hbody : (u.atlas.member id).body = .code .method {} := by
    rw [htu.atlas.member]
    exact hbody
  have hchange := modifyCodeUnit_typeParameters hbody vars
  refine hbuild.moves_modifyMember_bind (.typeParameters hbody hdeclared) (by rw [hchange]; rfl)
    fun v hv _ hbuild hmember => ?_
  rw [hchange] at hmember
  have hwf : v.WF := hbuild.steps.wf hs
  have hdeclared' : ∀ w ∈ vars, Declared v w := by
    rw [hv]
    exact hdeclared
  have hnew : ∀ w ∈ {w | w ∈ vars}, s.atlas.typeVars.size ≤ w.index := fun w hw =>
    hold.trans (hvars.new w hw)
  have hscope' : scope.owner.Within v.atlas.extent := hscope ▸ hbuild.lt
  refine (moves_linkBounds hwf hscope' hvars.name.length_eq hdeclared' hvars.nodup hF).bind_along
    (fun w hvw _ => (hbuild.bounds hvw hnew).adds) fun _ w hvw hbounds => moves_pure ?_
  refine ⟨hbuild.bounds hvw hnew, ?_, ?_, fun x hx => hvw.steps.frame.declared x (hdeclared' x hx),
    ?_, hbounds⟩
  · rw [hvw.member, hmember, ← htu.atlas.member]
    exact sameMember_typeParameters hbody vars
  · rw [hvw.member, hmember]
  · refine hvars.name.imp_mem fun p _ x hx hp => ?_
    rw [hvw.steps.frame.variableName x (hdeclared' x hx).1, hv]
    exact hp

/-! ## Linked code units -/

/-- The signature and the body of a code unit are what its record says. -/
structure UnitContent (t : Linker) (scope : Scope) (id : MemberId) (r : Record.CodeUnit)
    (unit : CodeUnit) (type : TypeRef) (raw : ClassId) : Prop extends Mentioned t r unit where
  returns : unit.returns = some type
  rawReturns : unit.rawReturns = some raw
  erases : Erases t scope r.returns type raw
  parameters : List.Forall₂ (ParamLinked t scope id) r.parameters unit.parameters

lemma UnitContent.keeps {scope : Scope} {id : MemberId} {r : Record.CodeUnit} {unit : CodeUnit}
    {type : TypeRef} {raw : ClassId} (h : UnitContent t scope id r unit type raw) (ht : t.WF)
    (htu : scope.Keeps t u) : UnitContent u scope id r unit type raw :=
  ⟨h.toMentioned.imp htu.names, h.returns, h.rawReturns, h.erases.keeps ht htu,
    h.parameters.imp fun _ _ hp => hp.keeps ht htu⟩

/-- Accesses are no part of what the record of a code unit says. -/
lemma UnitContent.withAccesses {scope : Scope} {id : MemberId} {r : Record.CodeUnit}
    {unit : CodeUnit} {type : TypeRef} {raw : ClassId} (h : UnitContent t scope id r unit type raw)
    (ids : List AccessId) : UnitContent t scope id r { unit with accesses := ids } type raw :=
  ⟨⟨h.throws, h.firstLine, h.catchBlocks, h.instanceofChecks, h.classObjects⟩, h.returns,
    h.rawReturns, h.erases, h.parameters⟩

/-- What a linked code unit refers to is there. -/
lemma UnitContent.within {scope : Scope} {id : MemberId} {r : Record.CodeUnit} {unit : CodeUnit}
    {type : TypeRef} {raw : ClassId} (h : UnitContent t scope id r unit type raw) (ht : t.WF)
    (hid : id.index < t.atlas.members.size)
    (hvars : ∀ v ∈ unit.typeParameters, v.index < t.atlas.typeVars.size)
    (haccesses : unit.accesses = []) : unit.Within t.atlas.extent where
  returns type htype := by
    rw [h.returns] at htype
    cases htype
    exact h.erases.fits
  rawReturns c hc := by
    rw [h.rawReturns] at hc
    cases hc
    exact h.erases.lt ht
  parameters p hp := by
    obtain ⟨rp, -, hparam⟩ := h.parameters.exists_left hp
    exact ⟨hparam.fits, hparam.lt ht, forall_within_of_describes ht hparam.annotations hid⟩
  throws c hc := by
    obtain ⟨n, -, hn⟩ := h.throws.exists_left hc
    exact ht.named.inRange hn
  typeParameters := hvars
  accesses i hi := by
    rw [haccesses] at hi
    cases hi
  catchBlocks b hb c hc := by
    obtain ⟨rb, -, hlinked⟩ := h.catchBlocks.exists_left hb
    obtain ⟨n, -, hn⟩ := hlinked.types.exists_left hc
    exact ht.named.inRange hn
  instanceofChecks x hx := by
    obtain ⟨rx, -, hlinked⟩ := h.instanceofChecks.exists_left hx
    exact ht.named.inRange hlinked.target
  classObjects x hx := by
    obtain ⟨rx, -, hlinked⟩ := h.classObjects.exists_left hx
    exact ht.named.inRange hlinked.target

/-- A member is the code unit that a record describes, and is named over the erasures of its
types. -/
structure UnitBody (t : Linker) (owner : ClassId) (kind : CodeKind) (r : Record.CodeUnit)
    (m : MemberId) (unit : CodeUnit) (type : TypeRef) (raw : ClassId) : Prop extends
    UnitContent t { cls := owner, codeUnit := some m } m r unit type raw where
  body : (t.atlas.member m).body = .code kind unit
  descriptor : (t.atlas.member m).descriptor = r.descriptor.getD (methodDescriptor
    (unit.parameters.map fun p => (t.atlas.cls p.raw).name) (t.atlas.cls raw).name)
  fullName : (t.atlas.member m).fullName = codeUnitName (t.atlas.cls owner).name r.name
    (unit.parameters.map fun p => (t.atlas.cls p.raw).fullName)

/-- A code unit is linked and queued as its record says. -/
structure UnitLinked (t : Linker) (owner : ClassId) (kind : CodeKind) (r : Record.CodeUnit)
    (m : MemberId) : Prop where
  taken : m.index < t.atlas.members.size
  name : (t.atlas.member m).name = r.name
  modifiers : (t.atlas.member m).modifiers = r.modifiers
  queued : (m, ⟨(t.atlas.cls owner).name, r.name, (t.atlas.member m).descriptor⟩) ∈ t.pending
  varName : List.Forall₂ (fun p v => (t.atlas.typeVar v).name = p.name) r.typeParameters
    (t.atlas.member m).typeParameters
  bounds : List.Forall₂ (BoundsLinked t { cls := owner, codeUnit := some m }) r.typeParameters
    (t.atlas.member m).typeParameters
  annotations : List.Forall₂ (Record.Annot.Describes (Known t) (.member m)) r.annotations
    (t.atlas.member m).annotations
  unit : ∃ unit type raw, UnitBody t owner kind r m unit type raw

lemma UnitLinked.kind {owner : ClassId} {kind : CodeKind} {r : Record.CodeUnit} {m : MemberId}
    (h : UnitLinked t owner kind r m) : (t.atlas.member m).codeKind? = some kind := by
  obtain ⟨unit, type, raw, hunit⟩ := h.unit
  rw [Member.codeKind?, hunit.body]

/-- A member stays the code unit that a record describes, while it keeps its names and the classes
theirs, whatever its accesses become. -/
lemma UnitBody.keeps {owner : ClassId} {kind : CodeKind} {r : Record.CodeUnit} {m : MemberId}
    {unit : CodeUnit} {type : TypeRef} {raw : ClassId} (h : UnitBody t owner kind r m unit type raw)
    (ht : t.WF) (howner : owner.index < t.atlas.classes.size) (hframe : Frame t u)
    (hkeeps : Scope.Keeps { cls := owner, codeUnit := some m } t u) {ids : List AccessId}
    (hbody : (u.atlas.member m).body = .code kind { unit with accesses := ids })
    (hdescriptor : (u.atlas.member m).descriptor = (t.atlas.member m).descriptor)
    (hfullName : (u.atlas.member m).fullName = (t.atlas.member m).fullName) :
    UnitBody u owner kind r m { unit with accesses := ids } type raw := by
  have htypes : ∀ p ∈ unit.parameters, (u.atlas.cls p.raw).type = (t.atlas.cls p.raw).type := by
    intro p hp
    obtain ⟨rp, -, hparam⟩ := h.parameters.exists_left hp
    exact hparam.classType ht hframe
  have hnames : unit.parameters.map (fun p => (u.atlas.cls p.raw).name) =
      unit.parameters.map fun p => (t.atlas.cls p.raw).name :=
    List.map_congr_left fun p hp => congrArg Descriptor.name (htypes p hp)
  have hfullNames : unit.parameters.map (fun p => (u.atlas.cls p.raw).fullName) =
      unit.parameters.map fun p => (t.atlas.cls p.raw).fullName :=
    List.map_congr_left fun p hp => congrArg Descriptor.fullName (htypes p hp)
  have hraw : (u.atlas.cls raw).name = (t.atlas.cls raw).name :=
    congrArg Descriptor.name (h.erases.classType ht hframe)
  refine ⟨(h.toUnitContent.keeps ht hkeeps).withAccesses ids, hbody, ?_, ?_⟩
  · rw [hdescriptor, hnames, hraw]
    exact h.descriptor
  · rw [hfullName, hfullNames, hframe.className howner]
    exact h.fullName

/-- A linked code unit stays linked while members are added. -/
lemma UnitLinked.adds {A : Set ClassId} {owner : ClassId} {kind : CodeKind} {r : Record.CodeUnit}
    {m : MemberId} (h : UnitLinked t owner kind r m) (ht : t.WF)
    (howner : owner.index < t.atlas.classes.size) (htu : Adds A t u) :
    UnitLinked u owner kind r m := by
  have hframe := htu.steps.frame
  have hmember := htu.member m h.taken
  have hkeeps : Scope.Keeps { cls := owner, codeUnit := some m } t u :=
    htu.keeps fun m' hm' => by
      cases hm'
      exact h.taken
  have hvar : ∀ v ∈ (t.atlas.member m).typeParameters, u.atlas.typeVar v = t.atlas.typeVar v :=
    fun v hv => htu.typeVar v (ht.closed.unitParameters m v hv)
  obtain ⟨new, hnew⟩ := htu.queued
  obtain ⟨unit, type, raw, hunit⟩ := h.unit
  refine ⟨h.taken.trans_le hframe.membersSize, by rw [hmember]; exact h.name,
    by rw [hmember]; exact h.modifiers, ?_, ?_, ?_, ?_,
    unit, type, raw, hunit.keeps ht howner hframe hkeeps (by rw [hmember]; exact hunit.body)
      (by rw [hmember]) (by rw [hmember])⟩
  · rw [hframe.className howner, hmember, hnew.pending]
    exact List.mem_append_left _ h.queued
  · rw [hmember]
    exact h.varName.imp_mem fun p _ v hv hp => by rw [hvar v hv]; exact hp
  · rw [hmember]
    exact h.bounds.imp_mem fun p _ v hv hp => hp.of_same ht hframe hkeeps.same (hvar v hv)
  · rw [hmember]
    exact h.annotations.imp fun _ _ hx => hx.imp hframe.names

/-! ## Completing a code unit -/

/-- The member as it is once its code unit is complete. -/
def completed (a : Atlas) (owner : ClassId) (kind : CodeKind) (r : Record.CodeUnit) (raw : ClassId)
    (unit : CodeUnit) (annotations : List Annot) (m : Member) : Member :=
  { m with
    fullName := codeUnitName (a.cls owner).name r.name
      (unit.parameters.map fun p => (a.cls p.raw).fullName)
    descriptor := r.descriptor.getD (methodDescriptor
      (unit.parameters.map fun p => (a.cls p.raw).name) (a.cls raw).name)
    annotations := annotations
    body := .code kind unit }

/-- A code unit is ready to be completed: its member has declared its type parameters, and all else
that its record says is linked. -/
structure UnitReady (t : Linker) (owner : ClassId) (r : Record.CodeUnit) (m : MemberId)
    (unit : CodeUnit) (annotations : List Annot) (type : TypeRef) (raw : ClassId) : Prop where
  lt : m.index < t.atlas.members.size
  owned : (t.atlas.member m).owner = owner
  named : (t.atlas.member m).name = r.name
  modifiers : (t.atlas.member m).modifiers = r.modifiers
  declared : UnitDeclared t { cls := owner, codeUnit := some m } m r.typeParameters
    unit.typeParameters
  content : UnitContent t { cls := owner, codeUnit := some m } m r unit type raw
  accesses : unit.accesses = []
  numbered : unit.parameters.map (·.position) = List.range unit.parameters.length
  annotated : List.Forall₂ (Record.Annot.Describes (Known t) (.member m)) r.annotations annotations

namespace UnitReady

variable {owner : ClassId} {kind : CodeKind} {r : Record.CodeUnit} {m : MemberId} {unit : CodeUnit}
  {annotations : List Annot} {type : TypeRef} {raw : ClassId}

lemma member (h : UnitReady t owner r m unit annotations type raw) (kind : CodeKind) :
    (t.atlas.modifyMember m (completed t.atlas owner kind r raw unit annotations)).member m =
      completed t.atlas owner kind r raw unit annotations (t.atlas.member m) := by
  rw [Atlas.member_modifyMember, if_pos ⟨rfl, h.lt⟩]

/-- Completing the member is an edit; only a record of a constructor makes it a constructor. -/
lemma edit (h : UnitReady t owner r m unit annotations type raw) (ht : t.WF)
    (hkind : r ∈ t.context.codeUnits (t.atlas.cls owner).name kind) :
    Edit t { t with
      atlas := t.atlas.modifyMember m (completed t.atlas owner kind r raw unit annotations) } := by
  refine .member _ _ ⟨rfl, rfl, rfl, rfl, h.declared.isField.symm⟩ ?_ ?_ ?_ ?_ fun _ => h.numbered
  · exact fun v hv => Or.inr (h.declared.declared v hv)
  · intro hconstructor
    obtain rfl : kind = .constructor := by
      simpa [completed, Member.isConstructor, Member.codeKind?] using hconstructor
    exact Or.inr ⟨_, r, hkind, h.named.symm⟩
  · refine fun hold => ⟨hold.owner, forall_within_of_describes ht h.annotated h.lt, ?_⟩
    exact h.content.within ht h.lt (fun v hv => (h.declared.declared v hv).1) h.accesses
  · intro i hi
    change i ∈ unit.accesses at hi
    rw [h.accesses] at hi
    cases hi

/-- The completed code unit may stand in the queue. -/
lemma queued (h : UnitReady t owner r m unit annotations type raw)
    (howner : (t.atlas.cls owner).imported = true) (kind : CodeKind) :
    Queued { t with
        atlas := t.atlas.modifyMember m (completed t.atlas owner kind r raw unit annotations) }
      (m, ⟨(t.atlas.cls owner).name, r.name,
        (completed t.atlas owner kind r raw unit annotations (t.atlas.member m)).descriptor⟩) := by
  have hmember := h.member kind
  refine ⟨?_, ?_, ?_, ?_⟩
  · refine (congrArg Member.isSigned hmember).trans ?_
    simp [completed, Member.isSigned, Member.codeUnit?, h.content.rawReturns]
  · exact (congrArg Member.accesses hmember).trans h.accesses
  · change (Atlas.member _ m).owner.index < t.atlas.classes.size
    rw [hmember]
    exact h.owned.symm ▸ Atlas.lt_of_imported howner
  · rw [Atlas.unitKey, hmember]
    change _ = UnitKey.mk (t.atlas.cls (t.atlas.member m).owner).name (t.atlas.member m).name _
    rw [h.owned, h.named]

/-- The completed code unit is what its record says. -/
lemma linked (h : UnitReady t owner r m unit annotations type raw) (ht : t.WF)
    (hframe : Frame t u)
    (hu : u = { t with
      atlas := t.atlas.modifyMember m (completed t.atlas owner kind r raw unit annotations)
      pending := t.pending ++ [(m, ⟨(t.atlas.cls owner).name, r.name,
        (completed t.atlas owner kind r raw unit annotations (t.atlas.member m)).descriptor⟩)] }) :
    UnitLinked u owner kind r m := by
  have hatlas := congrArg Linker.atlas hu
  have hmember := (congrArg (Atlas.member · m) hatlas).trans (h.member kind)
  have hvars : (u.atlas.member m).typeParameters = unit.typeParameters :=
    congrArg Member.typeParameters hmember
  have hkeeps : Scope.Keeps { cls := owner, codeUnit := some m } t u := by
    rw [hu]
    refine Scope.keeps_modifyMember _ ?_
    change unit.typeParameters = (t.atlas.member m).typeParameters
    rw [Member.typeParameters, Member.codeUnit?, h.declared.body]
    rfl
  refine ⟨h.lt.trans_le hframe.membersSize, ?_, ?_, ?_, ?_, ?_, ?_,
    unit, type, raw, h.content.keeps ht hkeeps, ?_, ?_, ?_⟩
  · exact (congrArg Member.name hmember).trans h.named
  · exact (congrArg Member.modifiers hmember).trans h.modifiers
  · rw [hmember, hu]
    exact List.mem_append_right _ (List.mem_singleton_self _)
  · rw [hvars, hatlas]
    exact h.declared.name
  · rw [hvars]
    refine h.declared.bounds.imp_mem fun p _ v hv hp => ?_
    exact hp.of_same ht hframe hkeeps.same (by rw [hatlas]; rfl)
  · rw [hmember]
    exact h.annotated.imp fun _ _ hx => hx.imp hframe.names
  · rw [hmember]
    rfl
  · rw [hmember, hatlas]
    rfl
  · rw [hmember, hatlas]
    rfl

end UnitReady

/-- **Completing a code unit** sets what its record says and queues it. -/
lemma moves_completeUnit {owner : ClassId} {kind : CodeKind} {r : Record.CodeUnit}
    {raw : ClassId} {unit : CodeUnit} {annotations : List Annot} {type : TypeRef}
    (hs : s.WF) (hbuild : Building s owner t)
    (hready : UnitReady t owner r ⟨s.atlas.members.size⟩ unit annotations type raw)
    (howner : (s.atlas.cls owner).imported = true)
    (hr : r ∈ s.context.codeUnits (s.atlas.cls owner).name kind) :
    Moves (Keeping (Adds {owner} s)) F t
      (completeUnit owner kind r ⟨s.atlas.members.size⟩ raw unit annotations) fun _ u =>
        (u.atlas.cls owner).members =
          (s.atlas.cls owner).members ++ [⟨s.atlas.members.size⟩] ∧
        UnitLinked u owner kind r ⟨s.atlas.members.size⟩ := by
  have hframe := hbuild.steps.frame
  have ht := hbuild.steps.wf hs
  have hkind : r ∈ t.context.codeUnits (t.atlas.cls owner).name kind := by
    rw [hframe.context, hframe.className (Atlas.lt_of_imported howner)]
    exact hr
  have hedit := hready.edit ht hkind
  have hentry := hready.queued ((hframe.isImported owner).trans howner) kind
  have hqueue := Edit.queue (Member.isField_of_isSigned hentry.isSigned)
  unfold completeUnit
  refine moves_get_bind ?_
  -- the code unit is queued as soon as it has a signature, so the two changes are one step
  refine moves_modifyAtlas_modify (fun _ => hbuild.complete hedit (hqueue _) hentry)
    fun u hu => ⟨?_, hready.linked ht ?_ hu⟩
  · rw [hu]
    exact hbuild.own
  · exact hu ▸ hedit.frame.trans (hqueue _).frame

/-- **Linking a code unit adds it to its class, as its record says.** -/
theorem moves_linkCodeUnit {owner : ClassId} {kind : CodeKind} {r : Record.CodeUnit} (hs : s.WF)
    (howner : (s.atlas.cls owner).imported = true)
    (hr : r ∈ s.context.codeUnits (s.atlas.cls owner).name kind)
    (hF : ∀ n ∈ r.names, Registry.readable n.toList = false → F) :
    Moves (Adds {owner}) F s (linkCodeUnit owner kind r) fun _ =>
      Gains owner (fun m u => UnitLinked u owner kind r m) s := by
  rw [linkCodeUnit_eq]
  refine moves_addMember_bind howner (fun _ => ⟨rfl, rfl, rfl, rfl, rfl, rfl, rfl, rfl⟩)
    (fun _ => by constructor <;> simp) fun t hbuild hmake => ?_
  refine (moves_declareUnit hs rfl hbuild (by rw [hmake]) fun n hn => hF n ?_).bind
    fun vars u _ hvars => ?_
  · simp only [Record.CodeUnit.names, List.mem_append, hn, true_or]
  obtain ⟨hbuild, hsame, hdeclared⟩ := hvars
  have hu := hbuild.steps.wf hs
  have hscope : Scope.owner { cls := owner, codeUnit := some ⟨s.atlas.members.size⟩ }
      |>.Within u.atlas.extent := hbuild.lt
  refine (hbuild.moves (moves_linkParams hu hscope fun n hn => hF n ?_)).bind
    fun parameters v _ hparameters => ?_
  · simp only [Record.CodeUnit.names, List.mem_append, hn, true_or, or_true]
  obtain ⟨huv, hparameters, hnumbered⟩ := hparameters
  have hv := huv.wf hu
  refine ((hbuild.grows huv).moves (moves_linkType _ _ v hv (hscope.mono huv.atlas.extent)
    fun n hn => hF n ?_)).bind fun returns w _ hreturns => moves_get_bind ?_
  · simp only [Record.CodeUnit.names, List.mem_append, hn, true_or, or_true]
  obtain ⟨hvw, htype⟩ := hreturns
  have hw := hvw.wf hv
  refine ((hbuild.grows (huv.trans hvw)).moves (moves_linkMentioned hF)).bind
    fun answer x _ hanswer => ?_
  obtain ⟨hwx, hsignature, hmentioned, hannotations⟩ := hanswer
  obtain ⟨hreturns, hraw, hparams, hvars, haccesses⟩ :
      answer.1.returns = some returns ∧ answer.1.rawReturns = some (w.atlas.erasure returns) ∧
        answer.1.parameters = parameters ∧ answer.1.typeParameters = vars ∧
        answer.1.accesses = [] := by
    simpa [signature] using hsignature
  have hux := (huv.trans hvw).trans hwx
  refine (moves_completeUnit hs (hbuild.grows hux) ⟨(hbuild.grows hux).lt, ?_, ?_, ?_, ?_,
    ⟨hmentioned, hreturns, hraw, ?_, ?_⟩, haccesses, hparams ▸ hnumbered, hannotations⟩
      howner hr).mono fun _ y _ hy => ⟨_, hy⟩
  · rw [hux.atlas.member, hsame.owner, hmake]
  · rw [hux.atlas.member, hsame.name, hmake]
  · rw [hux.atlas.member, hsame.modifiers, hmake]
  · rw [hvars]
    exact hdeclared.grows hu hux
  · exact Erases.keeps ⟨htype, rfl⟩ hw (hwx.keeps _)
  · rw [hparams]
    exact hparameters.imp fun _ _ hp => hp.keeps hv ((hvw.trans hwx).keeps _)

end Linker

end ClassAtlas
