import ClassAtlas.Dependency.Cycle
import ClassAtlas.Proofs.Dependency.Records
import ClassAtlas.Proofs.Search.Components

/-!
# Cycles are strongly connected components

* `DependsOn` — an imported class depends on another one.
* `cycles_eq_components` — **the cycles of an atlas are the sets of two or more imported classes
  that all reach each other**, each sorted by name, the shortest first.
-/

namespace ClassAtlas

namespace Atlas

variable {a : Atlas}

/-- An imported class depends on another one: the other one is what a dependency leads to, or what
the array is made of that it leads to. -/
def DependsOn (a : Atlas) (o b : ClassId) : Prop :=
  (a.cls o).imported = true ∧ (a.cls b).imported = true ∧ b ≠ o ∧
    ∃ d ∈ a.dependenciesFrom o, a.baseComponent d.target = b

lemma mem_importedDependees {o b : ClassId} : b ∈ a.importedDependees o ↔
    (a.cls b).imported = true ∧ b ≠ o ∧
      ∃ d ∈ a.dependenciesFrom o, a.baseComponent d.target = b := by
  simp only [importedDependees, dependees, (List.mergeSort_perm _ _).mem_iff, List.mem_filter,
    List.mem_eraseDups, List.mem_map, Bool.and_eq_true, bne_iff_ne]
  tauto

/-- From an imported class, the search finds what the class depends on, directly or not. -/
lemma reaches_importedDependees {v w : ClassId} (hv : (a.cls v).imported = true) :
    Search.Reaches a.importedDependees v w ↔ Relation.ReflTransGen a.DependsOn v w := by
  constructor
  · intro h
    have hall : Relation.ReflTransGen a.DependsOn v w ∧ (a.cls w).imported = true := by
      induction h with
      | refl => exact ⟨.refl, hv⟩
      | tail _ hstep ih =>
          obtain ⟨himported, hne, hd⟩ := mem_importedDependees.mp hstep
          exact ⟨ih.1.tail ⟨ih.2, himported, hne, hd⟩, himported⟩
    exact hall.1
  · exact fun h => h.lift id fun o b hob => mem_importedDependees.mpr hob.2

/-- The name of the first class. -/
def firstName (a : Atlas) (c : List ClassId) : String :=
  (c.head?.map fun id => (a.cls id).name).getD ""

lemma cycleLE_iff {c d : List ClassId} : a.cycleLE c d = true ↔
    toLex (c.length, a.firstName c) ≤ toLex (d.length, a.firstName d) := by
  rw [Prod.Lex.toLex_le_toLex]
  simp [cycleLE, firstName]

lemma mem_sortByName {ids : List ClassId} {v : ClassId} : v ∈ a.sortByName ids ↔ v ∈ ids :=
  (List.mergeSort_perm ids _).mem_iff

/-- A cycle is a component with two or more classes, sorted by name. -/
lemma mem_cycles {c : List ClassId} : c ∈ a.cycles ↔
    ∃ comp ∈ Search.components a.imported.toList a.importedDependees,
      1 < comp.length ∧ a.sortByName comp = c := by
  rw [cycles, (List.mergeSort_perm _ _).mem_iff]
  simp only [List.mem_map, List.mem_filter, decide_eq_true_eq, and_assoc]

end Atlas

namespace Linker

open Atlas

variable {s : Linker}

/-- The components that cycles are made of. -/
lemma Valid.isComponents (hs : Valid s) : Search.IsComponents s.atlas.imported.toList
    s.atlas.importedDependees
    (Search.components s.atlas.imported.toList s.atlas.importedDependees) :=
  Search.isComponents_components hs.nodup fun _ _ b hb =>
    (hs.mem_imported b).mpr (mem_importedDependees.mp hb).1

/-- Imported classes of the same name are the same. -/
lemma Valid.name_inj (hs : Valid s) {v w : ClassId} (hv : v ∈ s.atlas.imported.toList)
    (hw : w ∈ s.atlas.imported.toList) (h : (s.atlas.cls v).name = (s.atlas.cls w).name) : v = w :=
  hs.wf.named.name_inj (hs.lt hv) (hs.lt hw) h

/-- Classes are sorted by name. -/
lemma Valid.pairwise_sortByName (hs : Valid s) {ids : List ClassId} (hnodup : ids.Nodup)
    (hsub : ids ⊆ s.atlas.imported.toList) :
    (s.atlas.sortByName ids).Pairwise fun v w => (s.atlas.cls v).name < (s.atlas.cls w).name := by
  refine pairwise_mergeSort_of_key (fun v => (s.atlas.cls v).name)
    (fun v w => decide_eq_true_iff) ?_
  exact hnodup.imp_of_mem fun hv hw hne h => hne (hs.name_inj (hsub hv) (hsub hw) h)

/-- No two cycles have a class in common. -/
lemma Valid.disjoint_cycles (hs : Valid s) : s.atlas.cycles.Pairwise List.Disjoint := by
  refine (List.mergeSort_perm _ _).symm.pairwise ?_ fun h => h.symm
  refine List.pairwise_map.mpr ((hs.isComponents.disjoint.filter _).imp fun h v hv hw => ?_)
  exact h (mem_sortByName.mp hv) (mem_sortByName.mp hw)

lemma Valid.cycle (hs : Valid s) {c : List ClassId} (hc : c ∈ s.atlas.cycles) :
    2 ≤ c.length ∧ c ⊆ s.atlas.imported.toList ∧
      c.Pairwise fun v w => (s.atlas.cls v).name < (s.atlas.cls w).name := by
  obtain ⟨comp, hcomp, hlength, rfl⟩ := mem_cycles.mp hc
  have hsub := hs.isComponents.subset comp hcomp
  refine ⟨?_, fun v hv => hsub (mem_sortByName.mp hv),
    hs.pairwise_sortByName (hs.isComponents.nodup comp hcomp) hsub⟩
  rw [sortByName, List.length_mergeSort]
  exact hlength

/-- Cycles are sorted by length and first name. -/
lemma Valid.pairwise_cycles (hs : Valid s) : s.atlas.cycles.Pairwise fun c d =>
    c.length < d.length ∨
      c.length = d.length ∧ s.atlas.firstName c < s.atlas.firstName d := by
  have hperm := List.mergeSort_perm ((Search.components s.atlas.imported.toList
    s.atlas.importedDependees |>.filter fun c => 1 < c.length).map s.atlas.sortByName)
    s.atlas.cycleLE
  refine (pairwise_mergeSort_of_key (fun c => toLex (c.length, s.atlas.firstName c))
    (fun c d => cycleLE_iff) ?_).imp fun h => Prod.Lex.toLex_lt_toLex.mp h
  -- cycles with the same first name would have their first class in common
  refine (hperm.pairwise hs.disjoint_cycles fun h => h.symm).imp_of_mem
    fun {c d} hc hd hcd hkey => ?_
  obtain ⟨hc2, hcsub, -⟩ := hs.cycle (hperm.mem_iff.mpr hc)
  obtain ⟨hd2, hdsub, -⟩ := hs.cycle (hperm.mem_iff.mpr hd)
  obtain ⟨v, c', rfl⟩ := List.exists_cons_of_length_pos (by omega : 0 < c.length)
  obtain ⟨w, d', rfl⟩ := List.exists_cons_of_length_pos (by omega : 0 < d.length)
  have hname : (s.atlas.cls v).name = (s.atlas.cls w).name :=
    congrArg (fun key => (ofLex key).2) hkey
  obtain rfl := hs.name_inj (hcsub (List.mem_cons_self ..)) (hdsub (List.mem_cons_self ..)) hname
  exact hcd (List.mem_cons_self ..) (List.mem_cons_self ..)

/-- Two classes are in one cycle if and only if they reach each other. -/
lemma Valid.mem_cycle_iff (hs : Valid s) {v w : ClassId} (hv : v ∈ s.atlas.imported.toList)
    (hne : v ≠ w) : (∃ c ∈ s.atlas.cycles, v ∈ c ∧ w ∈ c) ↔
      Search.Together s.atlas.importedDependees v w := by
  constructor
  · rintro ⟨c, hc, hvc, hwc⟩
    obtain ⟨comp, hcomp, -, rfl⟩ := mem_cycles.mp hc
    exact (hs.isComponents.together comp hcomp v (mem_sortByName.mp hvc) w).mp
      (mem_sortByName.mp hwc)
  · intro h
    obtain ⟨comp, hcomp, hvc⟩ := hs.isComponents.covers v hv
    have hwc := (hs.isComponents.together comp hcomp v hvc w).mpr h
    refine ⟨_, mem_cycles.mpr ⟨comp, hcomp, ?_, rfl⟩, mem_sortByName.mpr hvc,
      mem_sortByName.mpr hwc⟩
    by_contra hlength
    obtain ⟨x, rfl⟩ : ∃ x, comp = [x] :=
      List.length_eq_one_iff.mp (by have := List.length_pos_of_mem hvc; omega)
    exact hne ((List.mem_singleton.mp hvc).trans (List.mem_singleton.mp hwc).symm)

/-- **The cycles of an atlas are its strongly connected components with two or more classes**: two
imported classes are in one cycle if and only if each depends on the other, directly or by way of
others.  No class occurs twice, the classes of a cycle are sorted by name, and cycles are sorted by
their length and the name of their first class. -/
theorem cycles_eq_components {context : ImportContext} {a : Atlas} (h : Completed context a) :
    (∀ c ∈ a.cycles, 2 ≤ c.length ∧ (∀ v ∈ c, (a.cls v).imported = true) ∧
      c.Pairwise fun v w => (a.cls v).name < (a.cls w).name) ∧
    a.cycles.flatten.Nodup ∧
    (∀ v w, (a.cls v).imported = true → (a.cls w).imported = true → v ≠ w →
      ((∃ c ∈ a.cycles, v ∈ c ∧ w ∈ c) ↔
        Relation.ReflTransGen a.DependsOn v w ∧ Relation.ReflTransGen a.DependsOn w v)) ∧
    a.cycles.Pairwise fun c d =>
      c.length < d.length ∨ c.length = d.length ∧ a.firstName c < a.firstName d := by
  obtain ⟨s, hs, rfl⟩ := h.exists_valid
  refine ⟨fun c hc => ?_, ?_, fun v w hv hw hne => ?_, hs.pairwise_cycles⟩
  · obtain ⟨hlength, hsub, hsorted⟩ := hs.cycle hc
    exact ⟨hlength, fun v hv => (hs.mem_imported v).mp (hsub hv), hsorted⟩
  · refine List.nodup_flatten.mpr ⟨fun c hc => ?_, hs.disjoint_cycles⟩
    exact (hs.cycle hc).2.2.imp fun hlt heq => absurd (heq ▸ hlt) (lt_irrefl _)
  · rw [hs.mem_cycle_iff ((hs.mem_imported v).mpr hv) hne, Search.Together,
      reaches_importedDependees hv, reaches_importedDependees hw]

/-- A class and its subclass, which the class has a field of. -/
def mutualBatch : Batch :=
  ⟨[{ name := "a.A", fields := [{ name := "b", type := .cls "a.B" }] },
    { name := "a.B", superclass := some (.cls "a.A") }]⟩

/-- The two classes are a cycle. -/
theorem cycles_eq_components_mutualBatch :
    ∃ a v w, Completed mutualBatch.context a ∧ (a.cls v).name = "a.A" ∧ (a.cls w).name = "a.B" ∧
      ∃ c ∈ a.cycles, v ∈ c ∧ w ∈ c := by
  obtain ⟨a, ha, hcompleted⟩ := exists_link mutualBatch (by decide +kernel)
  have hA : Registry.Denotes "a.A".toList (.object "a.A") := .className rfl
  have hB : Registry.Denotes "a.B".toList (.object "a.B") := .className rfl
  obtain ⟨v, hv, hvtype, -⟩ := exists_follows (r := mutualBatch.classes[0]) ha rfl hA
  obtain ⟨w, hw, hwtype, hwfollows⟩ := exists_follows (r := mutualBatch.classes[1]) ha rfl hB
  obtain ⟨t, rfl, hcontext, hfinished⟩ := finished_of_link ha
  have hnamed := hfinished.wf.named
  obtain ⟨d, hd, -, hdtype⟩ := hfinished.exists_dependency (b := mutualBatch) hcontext rfl hv hvtype
    (List.mem_cons_self ..) rfl hB (by decide) rfl
  obtain ⟨e, he, -, hetype⟩ := hwfollows.exists_dependency hwtype (List.mem_cons_self ..)
    (.inl rfl) hA (by decide) rfl
  have hdw : t.atlas.baseComponent d.target = w :=
    hnamed.baseComponent_eq_of_type (target_lt hd) (lt_of_imported hw) (by rw [hdtype, hwtype]; rfl)
  have hev : t.atlas.baseComponent e.target = v :=
    hnamed.baseComponent_eq_of_type (target_lt he) (lt_of_imported hv) (by rw [hetype, hvtype]; rfl)
  have hne : v ≠ w := ne_of_type hvtype hwtype (by decide)
  obtain ⟨-, -, hiff, -⟩ := cycles_eq_components hcompleted
  exact ⟨t.atlas, v, w, hcompleted, congrArg Descriptor.name hvtype,
    congrArg Descriptor.name hwtype, (hiff v w hv hw hne).mpr
      ⟨.single ⟨hv, hw, hne.symm, d, hd, hdw⟩, .single ⟨hw, hv, hne, e, he, hev⟩⟩⟩

end Linker

end ClassAtlas
