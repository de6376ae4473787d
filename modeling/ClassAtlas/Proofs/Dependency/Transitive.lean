import ClassAtlas.Dependency.Transitive
import ClassAtlas.Proofs.Dependency.Reverse
import ClassAtlas.Proofs.Search.Walk

/-!
# Transitive dependencies

Chains of dependencies can be followed from their start or from their end.  Going forward, arrays
are opened at the target of each dependency; going backward, at its origin, and a class is not found
from an array of itself.  For classes that are no arrays the two ways meet.

* `Plain` — what the two ways need: only imported classes depend on others, and none is an array or
  primitive.
* `Named.mem_follow` — what is found by following dependencies that their keys tell apart.
* `reaches_following_iff` — **a class can be reached forward if and only if its start can be reached
  backward**.
* `transitiveFrom_iff_transitiveTo` — the same of the dependencies that are found on the way.
-/

namespace ClassAtlas

namespace Atlas

variable {a : Atlas} {o t c i : ClassId}

/-! ## Following dependencies -/

/-- The classes that the dependencies found at a class lead to. -/
def following (a : Atlas) (found : ClassId → List Dependency) (next : Dependency → ClassId) :
    ClassId → List ClassId :=
  Search.successors found fun d => a.baseComponent (next d)

lemma mem_following {found : ClassId → List Dependency} {next : Dependency → ClassId} :
    i ∈ a.following found next c ↔ ∃ d ∈ found c, a.baseComponent (next d) = i :=
  List.mem_map

/-- The dependencies that are met on the way: those of the classes that can be reached. -/
lemma Named.mem_edgesFrom (ha : a.Named) {found : ClassId → List Dependency}
    {next : Dependency → ClassId} (hnext : ∀ c, ∀ d ∈ found c, (next d).index < a.classes.size)
    {d : Dependency} :
    d ∈ Search.edgesFrom found (fun d => a.baseComponent (next d)) a.classes.size o ↔
      ∃ c, Search.Reaches (a.following found next) o c ∧ d ∈ found c := by
  refine Search.mem_edgesFrom (Finset.mem_insert_self o a.classIds) (fun c _ d hd => ?_) ?_
  · exact Finset.mem_insert_of_mem (mem_classIds (ha.baseComponent_lt (hnext c d hd)))
  · exact (Finset.card_insert_le o a.classIds).trans (Nat.succ_le_succ a.card_classIds_le)

/-- Dependencies on a class start at classes of the atlas. -/
lemma origin_lt {d : Dependency} (hd : d ∈ a.dependenciesTo t) :
    d.origin.index < a.classes.size := by
  obtain ⟨c, -, hfrom⟩ := mem_allDependencies.mp (mem_dependenciesTo.mp hd).1
  rw [(collects_dependenciesFrom a c).origin d hfrom]
  exact lt_of_mem_dependenciesFrom hfrom

/-- What is found by following dependencies, if no two with the same key are found anywhere. -/
lemma Named.mem_follow (ha : a.Named) {found : ClassId → List Dependency}
    {next : Dependency → ClassId} (hnext : ∀ c, ∀ d ∈ found c, (next d).index < a.classes.size)
    (hkey : ∀ c, ∀ d ∈ found c, ∀ c', ∀ e ∈ found c', d.key = e.key → d = e) {d : Dependency} :
    d ∈ a.follow found next o ↔
      ∃ c, Search.Reaches (a.following found next) o c ∧ d ∈ found c := by
  refine (Dependency.mem_set fun d hd e he => ?_).trans (ha.mem_edgesFrom hnext)
  obtain ⟨c, -, hd⟩ := (ha.mem_edgesFrom hnext).mp hd
  obtain ⟨c', -, he⟩ := (ha.mem_edgesFrom hnext).mp he
  exact hkey c d hd c' e he

lemma Named.mem_transitiveFrom (ha : a.Named) {d : Dependency} : d ∈ a.transitiveFrom o ↔
    ∃ c, Search.Reaches (a.following a.dependenciesFrom (·.target)) o c ∧
      d ∈ a.dependenciesFrom c :=
  ha.mem_follow (fun _ _ hd => target_lt hd) fun _ _ hd _ _ he => eq_of_mem_dependenciesFrom hd he

lemma Named.mem_transitiveTo (ha : a.Named) {d : Dependency} : d ∈ a.transitiveTo t ↔
    ∃ c, Search.Reaches (a.following a.dependenciesTo (·.origin)) t c ∧ d ∈ a.dependenciesTo c :=
  ha.mem_follow (fun _ _ hd => origin_lt hd) fun _ _ hd _ _ he =>
    eq_of_mem_allDependencies (mem_dependenciesTo.mp hd).1 (mem_dependenciesTo.mp he).1

/-! ## Forward and backward -/

/-- Only imported classes depend on others, and they are neither arrays nor primitive. -/
structure Plain (a : Atlas) : Prop where
  named : a.Named
  mem_imported : ∀ c, c ∈ a.imported.toList ↔ (a.cls c).imported = true
  dependent : ∀ c, ∀ d ∈ a.dependenciesFrom c, (a.cls c).imported = true
  notArray : ∀ c, (a.cls c).imported = true → (a.cls c).isArray = false
  notPrimitive : ∀ c, (a.cls c).imported = true → (a.cls c).isPrimitive = false
  component : ∀ c, (a.cls c).isArray = false → (a.cls c).component = none

/-- A class that is no array is all that is inside of it. -/
lemma Plain.baseComponent_eq (ha : a.Plain) (hc : (a.cls c).isArray = false) :
    a.baseComponent c = c :=
  baseComponent_of_component (ha.component c hc)

/-- A dependency on a class, seen from where it starts. -/
lemma Plain.mem_dependenciesTo (ha : a.Plain) {d : Dependency} :
    d ∈ a.dependenciesTo t ↔ d ∈ a.dependenciesFrom d.origin ∧ a.Concerns t d := by
  rw [Atlas.mem_dependenciesTo, mem_allDependencies]
  refine and_congr_left fun _ => ⟨?_, fun hd => ⟨d.origin, ?_, hd⟩⟩
  · rintro ⟨c, -, hd⟩
    rwa [(collects_dependenciesFrom a c).origin d hd]
  · exact (ha.mem_imported _).mpr (ha.dependent _ d hd)

/-- The classes that depend on a class, one step back. -/
lemma Plain.mem_following_to (ha : a.Plain) : i ∈ a.following a.dependenciesTo (·.origin) t ↔
    ∃ d ∈ a.dependenciesFrom i, a.Concerns t d := by
  rw [mem_following]
  constructor
  · rintro ⟨d, hd, rfl⟩
    obtain ⟨hfrom, hconcerns⟩ := ha.mem_dependenciesTo.mp hd
    rw [ha.baseComponent_eq (ha.notArray _ (ha.dependent _ d hfrom))]
    exact ⟨d, hfrom, hconcerns⟩
  · rintro ⟨d, hd, hconcerns⟩
    have horigin := (collects_dependenciesFrom a i).origin d hd
    refine ⟨d, ha.mem_dependenciesTo.mpr ⟨horigin.symm ▸ hd, hconcerns⟩, ?_⟩
    rw [horigin, ha.baseComponent_eq (ha.notArray _ (ha.dependent _ d hd))]

/-- **Chains of dependencies can be read backwards.** -/
theorem Plain.reaches_following_iff (ha : a.Plain) (harray : (a.cls t).isArray = false)
    (hprimitive : (a.cls t).isPrimitive = false) :
    Search.Reaches (a.following a.dependenciesFrom (·.target)) o t ↔
      Search.Reaches (a.following a.dependenciesTo (·.origin)) t o := by
  constructor
  · -- a chain forward only passes imported classes, so each step that is no loop can be taken back
    intro h
    clear harray
    induction h with
    | refl => exact .refl
    | @tail c t _ hstep ih =>
        obtain ⟨d, hd, htarget⟩ := mem_following.mp hstep
        have hc := ih (ha.notPrimitive c (ha.dependent c d hd))
        by_cases hloop : t = c
        · rwa [hloop]
        · refine .head (ha.mem_following_to.mpr ⟨d, hd, Or.inr ?_⟩) hc
          rw [(collects_dependenciesFrom a c).origin d hd]
          exact ⟨htarget, hprimitive, hloop⟩
  · -- a chain backward only passes classes that are no arrays, so their bases are themselves
    intro h
    clear hprimitive
    induction h using Relation.ReflTransGen.head_induction_on with
    | refl => exact .refl
    | @head t c hstep _ ih =>
        obtain ⟨d, hd, hconcerns⟩ := ha.mem_following_to.mp hstep
        refine (ih (ha.notArray c (ha.dependent c d hd))).tail (mem_following.mpr ⟨d, hd, ?_⟩)
        rcases hconcerns with rfl | ⟨htarget, -⟩
        · exact ha.baseComponent_eq harray
        · exact htarget

/-- The dependencies found on the way from a class lead to what can be reached forward. -/
lemma Plain.exists_mem_transitiveFrom (ha : a.Plain) (hne : t ≠ o) :
    (∃ d ∈ a.transitiveFrom o, a.baseComponent d.target = t) ↔
      Search.Reaches (a.following a.dependenciesFrom (·.target)) o t := by
  rw [← Search.exists_step_iff_reaches hne]
  simp only [ha.named.mem_transitiveFrom, mem_following]
  tauto

/-- The dependencies found on the way to a class start at what can be reached backward. -/
lemma Plain.exists_mem_transitiveTo (ha : a.Plain) (hne : t ≠ o) :
    (∃ d ∈ a.transitiveTo t, d.origin = o) ↔
      Search.Reaches (a.following a.dependenciesTo (·.origin)) t o := by
  rw [← Search.exists_step_iff_reaches hne.symm]
  simp only [ha.named.mem_transitiveTo, ha.mem_following_to]
  constructor
  · rintro ⟨d, ⟨c, hc, hd⟩, rfl⟩
    exact ⟨c, hc, d, ha.mem_dependenciesTo.mp hd⟩
  · rintro ⟨c, hc, d, hd, hconcerns⟩
    have horigin := (collects_dependenciesFrom a o).origin d hd
    exact ⟨d, ⟨c, hc, ha.mem_dependenciesTo.mpr ⟨horigin.symm ▸ hd, hconcerns⟩⟩, horigin⟩

end Atlas

namespace Linker

open Atlas

variable {context : ImportContext} {a : Atlas}

lemma Completed.plain (h : Completed context a)
    (hnames : ∀ r ∈ context.headers, ∀ d, Registry.Denotes r.name.toList d →
      d.isArray = false ∧ d.isPrimitive = false) : a.Plain := by
  obtain ⟨files, options, hrecorded⟩ := h.recorded
  obtain ⟨s, hs, rfl⟩ := h.exists_valid
  have hplain : ∀ c, (s.atlas.cls c).imported = true →
      (s.atlas.cls c).type.isArray = false ∧ (s.atlas.cls c).type.isPrimitive = false := by
    intro c hc
    obtain ⟨r, hfirst, -⟩ := hrecorded.headed c hc
    exact hnames r hfirst.mem _ hfirst.holds
  refine ⟨hs.wf.named, hs.mem_imported, fun c d hd => ?_, fun c hc => (hplain c hc).1,
    fun c hc => (hplain c hc).2, hrecorded.component⟩
  by_contra himported
  exact not_mem_dependenciesFrom (hrecorded.stub c (Bool.eq_false_of_not_eq_true himported)) d hd

/-- **Transitive dependencies are the same seen from both ends**: if no record is named after an
array or a primitive type, a class depends on another one along some chain if and only if the other
one has it among the origins of the chains that lead to it. -/
theorem transitiveFrom_iff_transitiveTo (h : Completed context a)
    (hnames : ∀ r ∈ context.headers, ∀ d, Registry.Denotes r.name.toList d →
      d.isArray = false ∧ d.isPrimitive = false)
    {o t : ClassId} (hne : t ≠ o) (harray : (a.cls t).isArray = false)
    (hprimitive : (a.cls t).isPrimitive = false) :
    (∃ d ∈ a.transitiveFrom o, a.baseComponent d.target = t) ↔
      ∃ d ∈ a.transitiveTo t, d.origin = o := by
  have ha := h.plain hnames
  rw [ha.exists_mem_transitiveFrom hne, ha.exists_mem_transitiveTo hne,
    ha.reaches_following_iff harray hprimitive]

/-- Three classes in a row: the first has an array of arrays of the second, which extends the
third. -/
def rowBatch : Batch :=
  ⟨[{ name := "a.A", fields := [{ name := "f", type := .cls "a.B[][]" }] },
    { name := "a.B", superclass := some (.cls "a.C") },
    { name := "a.C", fields := [{ name := "g", type := .cls "a.C[]" }] }]⟩

/-- The first class depends on the third one by way of the second, and is found from there. -/
theorem transitiveFrom_iff_transitiveTo_rowBatch :
    ∃ a o b t, Completed rowBatch.context a ∧ (a.cls o).name = "a.A" ∧ (a.cls b).name = "a.B" ∧
      (a.cls t).name = "a.C" ∧ (∃ d ∈ a.transitiveFrom o, d.origin = b ∧ d.target = t) ∧
      ∃ d ∈ a.transitiveTo t, d.origin = o := by
  obtain ⟨a, ha, hcompleted⟩ := exists_link rowBatch (by decide +kernel)
  have hA : Registry.Denotes "a.A".toList (.object "a.A") := .className rfl
  have hB : Registry.Denotes "a.B".toList (.object "a.B") := .className rfl
  have hC : Registry.Denotes "a.C".toList (.object "a.C") := .className rfl
  obtain ⟨o, ho, hotype, -⟩ := exists_follows (r := rowBatch.classes[0]) ha rfl hA
  obtain ⟨b, hb, hbtype, hbfollows⟩ := exists_follows (r := rowBatch.classes[1]) ha rfl hB
  obtain ⟨t, ht, httype, -⟩ := exists_follows (r := rowBatch.classes[2]) ha rfl hC
  have hproper : ∀ r ∈ rowBatch.context.headers, (Descriptor.object r.name).Proper := by
    decide +kernel
  have hnames : ∀ r ∈ rowBatch.context.headers, ∀ d, Registry.Denotes r.name.toList d →
      d.isArray = false ∧ d.isPrimitive = false := by
    intro r hr d hd
    rw [hd.unique (Registry.denotes_name (hproper r hr))]
    exact ⟨rfl, rfl⟩
  obtain ⟨s, rfl, hcontext, hfinished⟩ := finished_of_link ha
  have hnamed := hfinished.wf.named
  -- the array of arrays is a field of the first class, and the third one a supertype of the second
  obtain ⟨d, hd, -, hdtype⟩ : ∃ d ∈ s.atlas.dependenciesFrom o, d.origin = o ∧
      (s.atlas.cls d.target).type = .array (.array (.object "a.B")) :=
    hfinished.exists_dependency (b := rowBatch) hcontext rfl ho hotype (List.mem_cons_self ..) rfl
      (Registry.denotes_fullName (d := .array (.array (.object "a.B"))) (by decide)) (by decide) rfl
  obtain ⟨e, he, heb, hetype⟩ : ∃ e ∈ s.atlas.dependenciesFrom b, e.origin = b ∧
      (s.atlas.cls e.target).type = .object "a.C" :=
    hbfollows.exists_dependency hbtype (List.mem_cons_self ..) (.inl rfl) hC (by decide) rfl
  have hdb : s.atlas.baseComponent d.target = b :=
    hnamed.baseComponent_eq_of_type (target_lt hd) (lt_of_imported hb) (by rw [hdtype, hbtype]; rfl)
  have het : e.target = t := hnamed.target_eq he (lt_of_imported ht) (hetype.trans httype.symm)
  have hforward : e ∈ s.atlas.transitiveFrom o :=
    hnamed.mem_transitiveFrom.mpr ⟨b, .single (mem_following.mpr ⟨d, hd, hdb⟩), he⟩
  have harray : (s.atlas.cls t).isArray = false := by
    rw [ClassNode.isArray, httype]
    rfl
  have hne : t ≠ o := ne_of_type httype hotype (by decide)
  refine ⟨s.atlas, o, b, t, hcompleted, congrArg Descriptor.name hotype,
    congrArg Descriptor.name hbtype, congrArg Descriptor.name httype, ⟨e, hforward, heb, het⟩,
    (transitiveFrom_iff_transitiveTo hcompleted hnames hne harray ?_).mp ?_⟩
  · rw [ClassNode.isPrimitive, httype]
    rfl
  · refine ⟨e, hforward, ?_⟩
    rw [het]
    exact (hcompleted.plain hnames).baseComponent_eq harray

end Linker

end ClassAtlas
