import ClassAtlas.Proofs.Dependency.Readings
import ClassAtlas.Proofs.Dependency.Records

/-!
# The order of records

A batch lists its records in some order, and linking follows it: it decides which position a class
gets, and which bounds of type variables are known when a type is linked.

* `Batch.NamesApart`, `Batch.Bounded` — the batches for which the order does not matter.
* `Batch.context_of_perm` — a context does not depend on the order, but for its headers.
* `Batch.alike_of_perm` — linking two batches with the same records leads to runs that are alike.
* `Batch.readingsOf_of_perm` — **direct dependencies do not depend on the order of records**.

Where two records denote the same class, as `a/A` and `a.A` do, its kind and its source are those of
the first, so the names have to differ in what they denote.  A generic array keeps the class that
its component erases to when it is linked.  In a bound that may be before the bounds of other
variables are known, so no variable may have such a bound.
-/

namespace ClassAtlas.Batch

open Linker

variable {b b' : Batch} {options options' : ImportOptions} {files files' : Files} {a a' : Atlas}

/-- The names of the records denote different classes. -/
def NamesApart (b : Batch) : Prop :=
  b.classes.Pairwise fun r r' =>
    ∀ type, Registry.Denotes r.name.toList type → ¬ Registry.Denotes r'.name.toList type

/-- All type parameters, of classes and of code units, are bounded by classes, parameterized types
or type variables. -/
def Bounded (b : Batch) : Prop :=
  ∀ r ∈ b.classes, ∀ p ∈ r.typeParameters ++ r.codeUnits.flatMap (·.typeParameters), p.Bounded

instance (b : Batch) : Decidable b.Bounded :=
  inferInstanceAs (Decidable (∀ r ∈ b.classes,
    ∀ p ∈ r.typeParameters ++ r.codeUnits.flatMap (·.typeParameters), p.Bounded))

/-! ## Contexts -/

lemma record?_of_perm (hb : (b.classes.map (·.name)).Nodup) (h : b.classes.Perm b'.classes) :
    b'.record? = b.record? := by
  funext name
  have hb' : (b'.classes.map (·.name)).Nodup := (h.map _).nodup_iff.mp hb
  refine Option.ext fun r => ?_
  constructor
  · intro hr
    obtain ⟨hmem, rfl⟩ := record?_mem hr
    exact record?_of_mem hb (h.mem_iff.mpr hmem)
  · intro hr
    obtain ⟨hmem, rfl⟩ := record?_mem hr
    exact record?_of_mem hb' (h.mem_iff.mp hmem)

/-- **A context does not depend on the order of records**, but for its headers. -/
theorem context_of_perm (hb : (b.classes.map (·.name)).Nodup) (h : b.classes.Perm b'.classes) :
    b'.context = { b.context with headers := b'.context.headers } := by
  have hrecord := record?_of_perm hb h
  have henclosing : b'.enclosing = b.enclosing := by
    funext name
    rw [enclosing, enclosing, hrecord]
  have hscopes : b'.scopes = b.scopes := by
    funext owner
    rw [scopes, scopes, hrecord, henclosing, size, size, h.length_eq]
  have hunit : b'.codeUnit? = b.codeUnit? := by
    funext key
    rw [codeUnit?, codeUnit?, hrecord, hscopes]
  have hofClass : ∀ {α : Type} (items : Record.Class → List α),
      b'.ofClass items = b.ofClass items := by
    intro α items
    funext name
    rw [ofClass, ofClass, hrecord]
  have hofUnit : ∀ {α : Type} (items : Record.CodeUnit → List α),
      b'.ofUnit items = b.ofUnit items := by
    intro α items
    funext key
    rw [ofUnit, ofUnit, hunit]
  simp only [context, hrecord, hofClass, hofUnit]

/-! ## Imported classes -/

/-- Names that denote different classes are different, if all of them denote some class. -/
lemma NamesApart.nodup (hb : b.NamesApart)
    (hdenotes : ∀ r ∈ b.classes, ∃ type, Registry.Denotes r.name.toList type) :
    (b.classes.map (·.name)).Nodup := by
  rw [List.Nodup, List.pairwise_map]
  refine hb.imp_of_mem fun {r r'} hr _ hapart hname => ?_
  obtain ⟨type, htype⟩ := hdenotes r hr
  exact hapart type htype (hname ▸ htype)

/-- There is one record at most for a class. -/
lemma NamesApart.eq_of_denotes (hb : b.NamesApart) {r r' : Record.Class} (hr : r ∈ b.classes)
    (hr' : r' ∈ b.classes) {type : Descriptor} (h : Registry.Denotes r.name.toList type)
    (h' : Registry.Denotes r'.name.toList type) : r = r' := by
  have hsymm : Std.Symm fun r r' : Record.Class =>
      ∀ type, Registry.Denotes r.name.toList type → ¬ Registry.Denotes r'.name.toList type :=
    ⟨fun _ _ hapart type h h' => hapart type h' h⟩
  by_contra hne
  exact hb.forall hr hr' hne type h h'

/-- Different names of classes in binary form denote different classes. -/
lemma namesApart_of_proper (hproper : ∀ r ∈ b.classes, (Descriptor.object r.name).Proper)
    (hnodup : (b.classes.map (·.name)).Nodup) : b.NamesApart := by
  rw [List.Nodup, List.pairwise_map] at hnodup
  refine hnodup.imp_of_mem fun {r r'} hr hr' hne type h h' => hne ?_
  have hobject : type = .object r.name := h.unique (Registry.denotes_name (hproper r hr))
  have hobject' : type = .object r'.name := h'.unique (Registry.denotes_name (hproper r' hr'))
  exact Descriptor.object.inj (hobject.symm.trans hobject')

section

variable {t t' : Linker} {c c' : ClassId}
  (hrecorded : Recorded files options b.context.headers t.atlas)
  (hrecorded' : Recorded files' options' b'.context.headers t'.atlas)

include hrecorded

/-- The record that an imported class comes from. -/
lemma exists_record (hc : (t.atlas.cls c).imported = true) :
    ∃ r ∈ b.classes, Registry.Denotes r.name.toList (t.atlas.cls c).type ∧
      Headed files options r.header (t.atlas.cls c) := by
  obtain ⟨header, hfirst, hheaded⟩ := hrecorded.headed c hc
  obtain ⟨r, hr, rfl⟩ := List.mem_map.mp hfirst.mem
  exact ⟨r, hr, hfirst.holds, hheaded⟩

include hrecorded'

/-- A class that is imported from a batch is imported from any other with the same records. -/
lemma exists_twinClass (h : b.classes ⊆ b'.classes) (hc : (t.atlas.cls c).imported = true) :
    ∃ c', TwinClass t t' c c' ∧ (t'.atlas.cls c').imported = true := by
  obtain ⟨r, hr, hdenotes, -⟩ := exists_record hrecorded hc
  obtain ⟨c', hc', hdenotes'⟩ := hrecorded'.present r.header (List.mem_map_of_mem (h hr))
  exact ⟨c', ⟨Atlas.lt_of_imported hc, Atlas.lt_of_imported hc', hdenotes'.unique hdenotes⟩, hc'⟩

lemma imported_of_twinClass (ht' : t'.WF) (h : b.classes ⊆ b'.classes) (htwin : TwinClass t t' c c')
    (hc : (t.atlas.cls c).imported = true) : (t'.atlas.cls c').imported = true := by
  obtain ⟨d, hd, himported⟩ := exists_twinClass hrecorded hrecorded' h hc
  rwa [htwin.right_unique ht' hd]

/-- Twins come from the same record. -/
lemma exists_header (hb : b.NamesApart) (h : b'.classes ⊆ b.classes) (htwin : TwinClass t t' c c')
    (hc : (t.atlas.cls c).imported = true) (hc' : (t'.atlas.cls c').imported = true) :
    ∃ header, Headed files options header (t.atlas.cls c) ∧
      Headed files' options' header (t'.atlas.cls c') := by
  obtain ⟨r, hr, hdenotes, hheaded⟩ := exists_record hrecorded hc
  obtain ⟨r', hr', hdenotes', hheaded'⟩ := exists_record hrecorded' hc'
  rw [htwin.type] at hdenotes'
  obtain rfl : r = r' := hb.eq_of_denotes hr (h hr') hdenotes hdenotes'
  exact ⟨r.header, hheaded, hheaded'⟩

end

/-- The source file of a class is that of its record, or follows from its name. -/
lemma sourceFileName_of_headed {c c' : ClassNode} {h : Record.Header}
    (hc : Headed files options h c)
    (hc' : Headed files' options' h c') (hname : c'.name = c.name) :
    c'.sourceFileName = c.sourceFileName := by
  have hfile : (c'.source.bind (·.fileName)) = c.source.bind (·.fileName) := by
    rw [hc.source, hc'.source]
    cases h.source <;> rfl
  rw [ClassNode.sourceFileName, ClassNode.sourceFileName, hfile, ClassNode.outermostSimpleName,
    ClassNode.outermostSimpleName, hname]

/-! ## Two batches -/

lemma Bounded.classParameter (hb : b.Bounded) {name : String} {p : TypeParam}
    (hp : p ∈ b.context.typeParameters name) : p.Bounded := by
  obtain ⟨r, hr, hp⟩ := mem_ofClass hp
  exact hb r hr p (List.mem_append_left _ hp)

lemma Bounded.unitParameter (hb : b.Bounded) {name : String} {e : CodeKind × Record.CodeUnit}
    (he : e ∈ b.context.unitRecords name) {p : TypeParam} (hp : p ∈ e.2.typeParameters) :
    p.Bounded := by
  obtain ⟨r, hr, hunit⟩ := mem_codeUnits (ImportContext.mem_unitRecords.mp he)
  exact hb r hr p (List.mem_append_right _ (List.mem_flatMap_of_mem hunit hp))

/-- **Linking two batches with the same records leads to runs that are alike.** -/
theorem alike_of_perm (hb : b.NamesApart) (hbounded : b.Bounded) (h : b.classes.Perm b'.classes)
    (hlink : Atlas.link b.context options files = .ok a)
    (hlink' : Atlas.link b'.context options' files' = .ok a') :
    ∃ t t', t.atlas = a ∧ t'.atlas = a' ∧ Alike t t' := by
  have hrecorded := recorded_of_link hlink
  have hrecorded' := recorded_of_link hlink'
  obtain ⟨t, rfl, hcontext, hleft⟩ := finished_of_link hlink
  obtain ⟨t', rfl, hcontext', hright⟩ := finished_of_link hlink'
  have himported : ∀ {c c'}, TwinClass t t' c c' →
      ((t'.atlas.cls c').imported = true ↔ (t.atlas.cls c).imported = true) := fun htwin =>
    ⟨imported_of_twinClass hrecorded' hrecorded hleft.wf h.symm.subset htwin.symm,
      imported_of_twinClass hrecorded hrecorded' hright.wf h.subset htwin⟩
  have hheader : ∀ {c c'}, TwinClass t t' c c' → (t.atlas.cls c).imported = true →
      ∃ header, Headed files options header (t.atlas.cls c) ∧
        Headed files' options' header (t'.atlas.cls c') := fun htwin hc =>
    exists_header hrecorded hrecorded' hb h.symm.subset htwin hc ((himported htwin).mpr hc)
  refine ⟨t, t', rfl, rfl, hleft, hright, ?_, ?_, ?_, ?_, ?_, ?_, ?_, ?_⟩
  · rw [hcontext, hcontext']
    refine context_of_perm (hb.nodup fun r hr => ?_) h
    obtain ⟨c, -, hdenotes⟩ := hrecorded.present r.header (List.mem_map_of_mem hr)
    exact ⟨_, hdenotes⟩
  · intro c hc
    obtain ⟨c', htwin, -⟩ := exists_twinClass hrecorded hrecorded' h.subset hc
    exact ⟨c', htwin⟩
  · intro c' hc'
    obtain ⟨c, htwin, -⟩ := exists_twinClass hrecorded' hrecorded h.symm.subset hc'
    exact ⟨c, htwin.symm⟩
  · intro c c' htwin
    exact Bool.eq_iff_iff.mpr (himported htwin)
  · intro c c' htwin hc
    obtain ⟨header, hheaded, hheaded'⟩ := hheader htwin hc
    exact hheaded'.kind.trans hheaded.kind.symm
  · intro c c' htwin hc
    obtain ⟨header, hheaded, hheaded'⟩ := hheader htwin hc
    exact sourceFileName_of_headed hheaded hheaded' htwin.name
  · intro name p hp
    rw [hcontext] at hp
    exact hbounded.classParameter hp
  · intro name e he p hp
    rw [hcontext] at he
    exact hbounded.unitParameter he hp

/-- **Direct dependencies do not depend on the order of records.** -/
theorem readingsOf_of_perm (hb : b.NamesApart) (hbounded : b.Bounded)
    (h : b.classes.Perm b'.classes) (hlink : Atlas.link b.context options files = .ok a)
    (hlink' : Atlas.link b'.context options' files' = .ok a') (name : String) :
    a.readingsOf name = a'.readingsOf name := by
  obtain ⟨t, t', rfl, rfl, halike⟩ := alike_of_perm hb hbounded h hlink hlink'
  exact halike.readingsOf_eq name

/-- A generic class. -/
def outerClass : Record.Class :=
  { name := "a.Outer"
    typeParameters := [{ name := "T", bounds := [.cls "a.B"] }]
    fields := [{ name := "f", type := .variable "T" }] }

/-- A class inside it with a bound that mentions an array of the variable outside.  What the array
erases to depends on whether the bound of that variable is linked before. -/
def nestedClass : Record.Class :=
  { name := "a.Outer$Nested"
    enclosingClass := some "a.Outer"
    superclass := some (.parameterized "a.Outer" [.variable "U"])
    typeParameters :=
      [{ name := "U", bounds := [.parameterized "a.List" [.genericArray (.variable "T")]] }]
    methods := [{ name := "m", returns := .genericArray (.variable "T") }] }

theorem readingsOf_of_perm_nestedClass :
    ∃ a a', Atlas.link (Batch.mk [outerClass, nestedClass]).context {} .none = .ok a ∧
      Atlas.link (Batch.mk [nestedClass, outerClass]).context {} .none = .ok a' ∧
      (Batch.mk [outerClass, nestedClass]).NamesApart ∧
      (Batch.mk [outerClass, nestedClass]).Bounded ∧
      ∃ r ∈ a.readingsOf "a.Outer$Nested", r.target = "a.Outer" ∧
        r ∈ a'.readingsOf "a.Outer$Nested" := by
  obtain ⟨a, ha, -⟩ := exists_link (Batch.mk [outerClass, nestedClass]) (by decide +kernel)
  obtain ⟨a', ha', -⟩ := exists_link (Batch.mk [nestedClass, outerClass]) (by decide +kernel)
  have hb : (Batch.mk [outerClass, nestedClass]).NamesApart :=
    namesApart_of_proper (by decide +kernel) (by decide +kernel)
  have hbounded : (Batch.mk [outerClass, nestedClass]).Bounded := by decide +kernel
  have houter : Registry.Denotes "a.Outer".toList (.object "a.Outer") := .className rfl
  have hnested : Registry.Denotes "a.Outer$Nested".toList (.object "a.Outer$Nested") :=
    .className rfl
  obtain ⟨c, hc, htype, hfollows⟩ := exists_follows (r := nestedClass) ha rfl hnested
  obtain ⟨d, hd, -, htarget⟩ := hfollows.exists_dependency htype (List.mem_cons_self ..)
    (.inr ⟨_, rfl⟩) houter (by decide) rfl
  have hreading : d.reading a ∈ a.readingsOf "a.Outer$Nested" :=
    ⟨c, Atlas.lt_of_imported hc, congrArg Descriptor.name htype, d, hd, rfl⟩
  have hreadings := readingsOf_of_perm hb hbounded (List.Perm.swap ..) ha ha' "a.Outer$Nested"
  exact ⟨a, a', ha, ha', hb, hbounded, d.reading a, hreading,
    congrArg Descriptor.name htarget, hreadings ▸ hreading⟩

end ClassAtlas.Batch
