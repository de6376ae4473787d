import ClassAtlas.Proofs.Linker.Twins

/-!
# Members of two runs over the same records

What is linked to a class in one run has a twin in the other run: supertypes, annotations, members
and accesses.  Members stand in the order of their records, so twins stand at the same places.

* `TwinAnnot`, `TwinUse`, `TwinMember` — annotations, accesses and members from the same records.
* `TwinNode` — two classes with everything that is linked to them.
* `Alike.twinNode` — **imported classes of the same type are such classes**.

The accesses of a code unit are found by its descriptor, and the descriptor is made of what the
types of its parameters erase to.  So parameters are compared first.
-/

namespace ClassAtlas

namespace Linker

variable {t t' : Linker} {c c' : ClassId} {scope scope' : Scope}

/-! ## Annotations -/

/-- Annotations of the same type whose values mention the same classes. -/
structure TwinAnnot (t t' : Linker) (x x' : Annot) : Prop where
  type : TwinClass t t' x.type x'.type
  memberTypes : List.Forall₂ (TwinClass t t') x.memberTypes x'.memberTypes

namespace Alike

/-- The same names stand for twins. -/
lemma forall₂_twinClass (h : Alike t t') {names : List String} {ids ids' : List ClassId}
    (hids : List.Forall₂ (Known t) names ids) (hids' : List.Forall₂ (Known t') names ids') :
    List.Forall₂ (TwinClass t t') ids ids' := by
  refine (hids.of_common hids').imp ?_
  rintro c c' ⟨name, -, hc, hc'⟩
  exact h.twinClass hc hc'

lemma forall₂_twinAnnot (h : Alike t t') {element element' : Element}
    {records : List Record.Annot} {xs xs' : List Annot}
    (hxs : List.Forall₂ (Record.Annot.Describes (Known t) element) records xs)
    (hxs' : List.Forall₂ (Record.Annot.Describes (Known t') element') records xs') :
    List.Forall₂ (TwinAnnot t t') xs xs' := by
  refine (hxs.of_common hxs').imp ?_
  rintro x x' ⟨r, -, hx, hx'⟩
  exact ⟨h.twinClass hx.type hx'.type,
    h.forall₂_twinClass hx.properties.forall₂_types hx'.properties.forall₂_types⟩

end Alike

/-! ## Accesses -/

/-- Accesses of the same kind in the same line to members of the same name. -/
structure TwinUse (t t' : Linker) (use use' : Use) : Prop where
  kind : use'.1 = use.1
  line : use'.2.2 = use.2.2
  fullName : use'.2.1.fullName = use.2.1.fullName
  owner : TwinClass t t' use.2.1.owner use'.2.1.owner

namespace Alike

/-- The same record is linked to twins. -/
lemma twinUse (h : Alike t t') {r : Record.Use} {use use' : Use} (huse : LinkedUse t r use)
    (huse' : LinkedUse t' r use') : TwinUse t t' use use' where
  kind := huse'.kind.trans huse.kind.symm
  line := huse'.line.trans huse.line.symm
  owner := h.twinClass huse.owner huse'.owner
  fullName := by
    have howner := h.twinClass huse.owner huse'.owner
    have hparameters := (h.forall₂_twinClass huse.parameters huse'.parameters).map_eq_map
      fun _ _ hp => hp.fullName
    rw [huse'.fullName, huse.fullName, Atlas.targetName, Atlas.targetName, huse'.targetKind,
      huse.targetKind, howner.name, huse'.name, huse.name, hparameters]

/-- Code units with the same key have twins for accesses. -/
lemma forall₂_twinUse (h : Alike t t') {m m' : MemberId} {key : UnitKey}
    (hm : AccessesLinked t m key) (hm' : AccessesLinked t' m' key) :
    List.Forall₂ (fun i i' => TwinUse t t' (t.atlas.access i).use (t'.atlas.access i').use)
      (t.atlas.member m).accesses (t'.atlas.member m').accesses := by
  obtain ⟨uses, huses, hids⟩ := hm
  obtain ⟨uses', huses', hids'⟩ := hm'
  have hcontext : t'.context.uses key = t.context.uses key := by rw [h.context]; rfl
  rw [hcontext] at huses'
  have htwins : List.Forall₂ (TwinUse t t') uses uses' := by
    refine (huses.of_common huses').imp ?_
    rintro use use' ⟨r, -, huse, huse'⟩
    exact h.twinUse huse huse'
  -- of twins, those are kept that stand at the same places, since their keys are the same
  have hkept : List.Forall₂ (TwinUse t t') (distinctUses uses) (distinctUses uses') := by
    refine forall₂_distinctBy ?_ htwins
    intro use use' huse
    change (use.1, use.2.1.fullName, use.2.2) = (use'.1, use'.2.1.fullName, use'.2.2)
    rw [huse.kind, huse.line, huse.fullName]
  refine ((hids.of_common hkept).flip.of_common hids').imp ?_
  rintro i i' ⟨use', -, ⟨use, -, ⟨-, hi⟩, huse⟩, -, hi'⟩
  rw [hi, hi']
  exact huse

end Alike

/-! ## Members -/

/-- Types of the same signature that erase to twins. -/
structure TwinErased (t t' : Linker) (type type' : TypeRef) (raw raw' : ClassId) : Prop where
  type : TwinType t t' type type'
  raw : TwinClass t t' raw raw'

/-- Parameters from the same record. -/
structure TwinParam (t t' : Linker) (p p' : Param) : Prop extends
    TwinErased t t' p.type p'.type p.raw p'.raw where
  annotations : List.Forall₂ (TwinAnnot t t') p.annotations p'.annotations

/-- Uses of the same class in the same line. -/
structure TwinTypeUse (t t' : Linker) (x x' : TypeUse) : Prop where
  target : TwinClass t t' x.target x'.target
  line : x'.line = x.line

/-- The same classes caught in the same line. -/
structure TwinCatch (t t' : Linker) (b b' : CatchBlock) : Prop where
  types : List.Forall₂ (TwinClass t t') b.types b'.types
  line : b'.line = b.line

/-- Code units from the same record. -/
structure TwinUnit (t t' : Linker) (unit unit' : CodeUnit) : Prop where
  returns : ∃ type raw type' raw', unit.returns = some type ∧ unit.rawReturns = some raw ∧
    unit'.returns = some type' ∧ unit'.rawReturns = some raw' ∧
    TwinErased t t' type type' raw raw'
  parameters : List.Forall₂ (TwinParam t t') unit.parameters unit'.parameters
  throws : List.Forall₂ (TwinClass t t') unit.throws unit'.throws
  typeParameters : List.Forall₂ (TwinVar t t') unit.typeParameters unit'.typeParameters
  firstLine : unit'.firstLine = unit.firstLine
  accesses : List.Forall₂
    (fun i i' => TwinUse t t' (t.atlas.access i).use (t'.atlas.access i').use)
    unit.accesses unit'.accesses
  catchBlocks : List.Forall₂ (TwinCatch t t') unit.catchBlocks unit'.catchBlocks
  instanceofChecks : List.Forall₂ (TwinTypeUse t t') unit.instanceofChecks unit'.instanceofChecks
  classObjects : List.Forall₂ (TwinTypeUse t t') unit.classObjects unit'.classObjects

/-- What belongs to members from the same record. -/
inductive TwinBody (t t' : Linker) : MemberBody → MemberBody → Prop
  | field {type type' : TypeRef} {raw raw' : ClassId} (h : TwinErased t t' type type' raw raw') :
      TwinBody t t' (.field type raw) (.field type' raw')
  | code {unit unit' : CodeUnit} (kind : CodeKind) (h : TwinUnit t t' unit unit') :
      TwinBody t t' (.code kind unit) (.code kind unit')

/-- Members from the same record. -/
structure TwinMember (t t' : Linker) (m m' : Member) : Prop where
  fullName : m'.fullName = m.fullName
  annotations : List.Forall₂ (TwinAnnot t t') m.annotations m'.annotations
  body : TwinBody t t' m.body m'.body

lemma TwinBody.codeKind? {m m' : Member} (h : TwinBody t t' m.body m'.body) :
    m'.codeKind? = m.codeKind? := by
  rw [Member.codeKind?, Member.codeKind?]
  generalize m.body = body at h ⊢
  generalize m'.body = body' at h ⊢
  cases h with
  | field _ => rfl
  | code _ _ => rfl

/-- Twins are described in the same words. -/
lemma TwinMember.description {m m' : Member} (h : TwinMember t t' m m') :
    m'.description = m.description := by
  rw [Member.description, Member.description, Member.kindName, Member.kindName, h.body.codeKind?,
    h.fullName]

namespace Alike

lemma twinErased (h : Alike t t') (hscope : TwinScope t t' scope scope') {sig : TypeSig}
    {type type' : TypeRef} {raw raw' : ClassId} (hx : Erases t scope sig type raw)
    (hx' : Erases t' scope' sig type' raw') : TwinErased t t' type type' raw raw' where
  type := ⟨scope, scope', sig, hscope, hx.reads, hx'.reads⟩
  raw := by
    rw [hx.raw, hx'.raw]
    exact h.erasure hscope hx.links hx'.links

lemma twinField (h : Alike t t') (hc : TwinClass t t' c c') {r : Record.Field} {m m' : MemberId}
    (hm : FieldLinked t c r m) (hm' : FieldLinked t' c' r m') :
    TwinMember t t' (t.atlas.member m) (t'.atlas.member m') where
  fullName := by rw [hm'.fullName, hm.fullName, hc.name]
  annotations := h.forall₂_twinAnnot hm.annotations hm'.annotations
  body := by
    obtain ⟨type, raw, hbody, htype⟩ := hm.body
    obtain ⟨type', raw', hbody', htype'⟩ := hm'.body
    rw [hbody, hbody']
    exact .field (h.twinErased (.of_class hc) htype htype')

lemma forall₂_twinTypeUse (h : Alike t t') {records : List Record.TypeUse} {xs xs' : List TypeUse}
    (hxs : List.Forall₂ (TypeUseLinked t) records xs)
    (hxs' : List.Forall₂ (TypeUseLinked t') records xs') :
    List.Forall₂ (TwinTypeUse t t') xs xs' := by
  refine (hxs.of_common hxs').imp ?_
  rintro x x' ⟨r, -, hx, hx'⟩
  exact ⟨h.twinClass hx.target hx'.target, hx'.line.trans hx.line.symm⟩

lemma twinCodeUnit (h : Alike t t') (hc : TwinClass t t' c c') {kind : CodeKind}
    {r : Record.CodeUnit} {m m' : MemberId} (hbounded : ∀ p ∈ r.typeParameters, p.Bounded)
    (hm : UnitFinished t c kind r m) (hm' : UnitFinished t' c' kind r m') :
    TwinMember t t' (t.atlas.member m) (t'.atlas.member m') := by
  obtain ⟨unit, type, raw, hunit⟩ := hm.unit
  obtain ⟨unit', type', raw', hunit'⟩ := hm'.unit
  have hscope := TwinScope.of_unit hc hbounded hm hm'
  have hreturns := h.twinErased hscope hunit.erases hunit'.erases
  have hparameters : List.Forall₂ (TwinParam t t') unit.parameters unit'.parameters := by
    refine (hunit.parameters.of_common hunit'.parameters).imp ?_
    rintro p p' ⟨record, -, hp, hp'⟩
    exact ⟨h.twinErased hscope hp.toErases hp'.toErases,
      h.forall₂_twinAnnot hp.annotations hp'.annotations⟩
  have hrawNames := hparameters.map_eq_map fun _ _ hp => hp.raw.name
  have hrawFullNames := hparameters.map_eq_map fun _ _ hp => hp.raw.fullName
  have hdescriptor : (t'.atlas.member m').descriptor = (t.atlas.member m).descriptor := by
    rw [hunit'.descriptor, hunit.descriptor, hrawNames, hreturns.raw.name]
  have haccesses := hm'.accesses
  rw [hc.name, hdescriptor] at haccesses
  have haccesses := h.forall₂_twinUse hm.accesses haccesses
  have hvars := hm.forall₂_twinVar hm' hc hbounded
  simp only [Member.accesses, Member.typeParameters, Member.codeUnit?, hunit.body,
    hunit'.body] at haccesses hvars
  refine ⟨?_, h.forall₂_twinAnnot hm.annotations hm'.annotations, ?_⟩
  · rw [hunit'.fullName, hunit.fullName, hrawFullNames, hc.name]
  rw [hunit.body, hunit'.body]
  refine .code kind ⟨⟨type, raw, type', raw', hunit.returns, hunit.rawReturns, hunit'.returns,
    hunit'.rawReturns, hreturns⟩, hparameters, h.forall₂_twinClass hunit.throws hunit'.throws,
    hvars, hunit'.firstLine.trans hunit.firstLine.symm, haccesses, ?_, ?_, ?_⟩
  · refine (hunit.catchBlocks.of_common hunit'.catchBlocks).imp ?_
    rintro b b' ⟨r, -, hb, hb'⟩
    exact ⟨h.forall₂_twinClass hb.types hb'.types, hb'.line.trans hb.line.symm⟩
  · exact h.forall₂_twinTypeUse hunit.instanceofChecks hunit'.instanceofChecks
  · exact h.forall₂_twinTypeUse hunit.classObjects hunit'.classObjects

end Alike

/-! ## Classes -/

/-- Imported classes of the same type, with everything that is linked to them. -/
structure TwinNode (t t' : Linker) (c c' : ClassId) : Prop extends TwinClass t t' c c' where
  kind : (t'.atlas.cls c').kind = (t.atlas.cls c).kind
  sourceFileName : (t'.atlas.cls c').sourceFileName = (t.atlas.cls c).sourceFileName
  superclass : Option.Rel (fun type type' =>
      TwinErased t t' type type' (t.atlas.erasure type) (t'.atlas.erasure type'))
    (t.atlas.cls c).superclass (t'.atlas.cls c').superclass
  interfaces : List.Forall₂ (fun type type' =>
      TwinErased t t' type type' (t.atlas.erasure type) (t'.atlas.erasure type'))
    (t.atlas.cls c).interfaces (t'.atlas.cls c').interfaces
  typeParameters : List.Forall₂ (TwinVar t t') (t.atlas.cls c).typeParameters
    (t'.atlas.cls c').typeParameters
  annotations : List.Forall₂ (TwinAnnot t t') (t.atlas.cls c).annotations
    (t'.atlas.cls c').annotations
  members : List.Forall₂
    (fun m m' => TwinMember t t' (t.atlas.member m) (t'.atlas.member m'))
    (t.atlas.cls c).members (t'.atlas.cls c').members

namespace Alike

lemma twinErased_of_typeLinked (h : Alike t t') (hscope : TwinScope t t' scope scope')
    {sig : TypeSig} {type type' : TypeRef} (hx : TypeLinked t scope sig type)
    (hx' : TypeLinked t' scope' sig type') :
    TwinErased t t' type type' (t.atlas.erasure type) (t'.atlas.erasure type') :=
  h.twinErased hscope ⟨hx, rfl⟩ ⟨hx', rfl⟩

/-- **Imported classes of the same type have twins for all that is linked to them.** -/
theorem twinNode (h : Alike t t') (hc : TwinClass t t' c c')
    (himported : (t.atlas.cls c).imported = true) : TwinNode t t' c c' := by
  have hleft := h.left.cls c himported
  have hright := h.right.cls c' ((h.imported hc).trans himported)
  have hscope := TwinScope.of_class hc
  refine ⟨hc, h.kind hc himported, h.sourceFileName hc himported, ?_, ?_, h.classParameters hc, ?_,
    ?_⟩
  · have hsuper := hright.inherited.superclass
    rw [h.context, hc.name] at hsuper
    refine (hleft.inherited.superclass.of_common hsuper).imp ?_
    rintro type type' ⟨sig, hx, hx'⟩
    exact h.twinErased_of_typeLinked hscope hx hx'
  · have hinterfaces := hright.inherited.interfaces
    rw [h.context, hc.name] at hinterfaces
    refine (hleft.inherited.interfaces.of_common hinterfaces).imp ?_
    rintro type type' ⟨sig, -, hx, hx'⟩
    exact h.twinErased_of_typeLinked hscope hx hx'
  · have hannotations := hright.annotated
    rw [Annotated, h.context, hc.name] at hannotations
    exact h.forall₂_twinAnnot hleft.annotated hannotations
  · obtain ⟨fields, units, hmembers, hfields, hunits⟩ := hleft.members
    obtain ⟨fields', units', hmembers', hfields', hunits'⟩ := hright.members
    rw [h.context, hc.name] at hfields' hunits'
    rw [hmembers, hmembers']
    refine List.rel_append ?_ ?_
    · refine (hfields.of_common hfields').imp ?_
      rintro m m' ⟨r, -, hm, hm'⟩
      exact h.twinField hc hm hm'
    · refine (hunits.of_common hunits').imp ?_
      rintro m m' ⟨e, he, hm, hm'⟩
      exact h.twinCodeUnit hc (h.unitBounds _ e he) hm hm'

end Alike

end Linker

end ClassAtlas
