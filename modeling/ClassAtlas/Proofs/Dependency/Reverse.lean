import ClassAtlas.Proofs.Dependency.Index
import ClassAtlas.Proofs.Dependency.Records

/-!
# Dependencies on a class

The index files every dependency of an imported class under its target, and often once more under
the class inside the array layers of its target.  What is filed under a class is made distinct in
the end.

* `dependencyEntries` — where a dependency is filed; `lookup_dependencies` — what the index has for
  a class.
* `eq_of_mem_allDependencies` — the key tells the dependencies of an atlas apart, so no two are
  merged when they are made distinct.
* `mem_dependenciesTo` — **the dependencies on a class are exactly those that concern it**.
-/

namespace ClassAtlas

/-- A dependency concerns its target and the class inside the array layers of it, unless that is
primitive or where the dependency starts. -/
def Atlas.Concerns (a : Atlas) (t : ClassId) (d : Dependency) : Prop :=
  d.target = t ∨ (a.baseComponent d.target = t ∧ (a.cls t).isPrimitive = false ∧ t ≠ d.origin)

/-! ## Filing -/

namespace ReverseIndex

variable {a : Atlas} {t : ClassId} {d e : Dependency}

/-- Where a dependency is filed. -/
def dependencyEntries (a : Atlas) (d : Dependency) : List (ClassId × Dependency) :=
  let component := a.baseComponent d.target
  (d.target, d) ::
    if component ≠ d.target ∧ component ≠ d.origin ∧ (a.cls component).isPrimitive = false then
      [(component, d)]
    else []

/-- A dependency is filed under the classes that it concerns. -/
lemma mem_dependencyEntries : (t, e) ∈ dependencyEntries a d ↔ e = d ∧ a.Concerns t d := by
  rw [dependencyEntries, List.mem_cons, Prod.mk.injEq, Atlas.Concerns]
  constructor
  · rintro (⟨rfl, rfl⟩ | hmem)
    · exact ⟨rfl, Or.inl rfl⟩
    · split_ifs at hmem with h
      · obtain ⟨rfl, rfl⟩ := Prod.mk.inj (List.mem_singleton.mp hmem)
        exact ⟨rfl, Or.inr ⟨rfl, h.2.2, h.2.1⟩⟩
      · cases hmem
  · rintro ⟨rfl, rfl | ⟨rfl, hprimitive, horigin⟩⟩
    · exact Or.inl ⟨rfl, rfl⟩
    · by_cases htarget : a.baseComponent e.target = e.target
      · exact Or.inl ⟨htarget, rfl⟩
      · rw [if_pos ⟨htarget, horigin, hprimitive⟩]
        exact Or.inr (List.mem_singleton_self _)

lemma notes_addDependency (a : Atlas) (d : Dependency) :
    Notes dependencies (addDependency a · d) (dependencyEntries a d) := by
  intro x
  change (addDependency a x d).dependencies = _
  rw [addDependency, dependencyEntries]
  split_ifs <;> rfl

lemma signed_dependencies : Signed dependencies fun _ => [] where
  frame _ _ _ _ := rfl
  signature m := .nothing fun x => (addSignature_frame x m).2.2

lemma notes_dependencies (a : Atlas) (c : ClassId) : Notes dependencies (addClass a · c)
    ((a.dependenciesFrom c).flatMap (dependencyEntries a)) :=
  (signed_dependencies.addElements_nothing a c).trans
    (Notes.foldl (notes_addDependency a) (a.dependenciesFrom c))

lemma dependencies_addAccess (access : Access) : Notes dependencies (addAccess · access) [] := by
  refine .nothing fun x => ?_
  rw [addAccess]
  split_ifs <;> rfl

end ReverseIndex

namespace Atlas

open ReverseIndex

variable {a : Atlas} {t : ClassId} {d e : Dependency}

/-- What the index has for a class: the dependencies that are filed under it, made distinct. -/
lemma lookup_dependencies (a : Atlas) (t : ClassId) : a.dependenciesTo t =
    Dependency.set (((a.allDependencies.flatMap (dependencyEntries a)).filter
      fun e => e.1 = t).map Prod.snd) := by
  rw [dependenciesTo, lookup_reverseIndex rfl dependencies_addAccess (notes_dependencies a)
    fun x => Multimap.lookup_mapLists x.dependencies Dependency.set_nil t,
    List.flatMap_eq_nil_iff.mpr fun _ _ => rfl, List.nil_append, allDependencies,
    List.flatMap_assoc]

lemma mem_allDependencies :
    d ∈ a.allDependencies ↔ ∃ c ∈ a.imported.toList, d ∈ a.dependenciesFrom c :=
  List.mem_flatMap

/-- Dependencies with the same key have the same origin, so they are in the same ascending list. -/
lemma eq_of_mem_dependenciesFrom {c c' : ClassId} (hd : d ∈ a.dependenciesFrom c)
    (he : e ∈ a.dependenciesFrom c') (hkey : d.key = e.key) : d = e := by
  have horigin : d.origin = e.origin := congrArg (fun key => key.2.2.1) hkey
  rw [(collects_dependenciesFrom a c).origin d hd,
    (collects_dependenciesFrom a c').origin e he] at horigin
  subst horigin
  exact (ascending_dependenciesFrom a c).eq_of_key hd he hkey

lemma eq_of_mem_allDependencies (hd : d ∈ a.allDependencies) (he : e ∈ a.allDependencies)
    (hkey : d.key = e.key) : d = e := by
  obtain ⟨c, -, hd⟩ := mem_allDependencies.mp hd
  obtain ⟨c', -, he⟩ := mem_allDependencies.mp he
  exact eq_of_mem_dependenciesFrom hd he hkey

lemma ascending_dependenciesTo (a : Atlas) (t : ClassId) :
    Dependency.Ascending (a.dependenciesTo t) := by
  rw [lookup_dependencies]
  exact Dependency.ascending_set _

/-- **The dependencies on a class are exactly those that concern it.** -/
lemma mem_dependenciesTo : d ∈ a.dependenciesTo t ↔ d ∈ a.allDependencies ∧ a.Concerns t d := by
  have hfiled : ∀ {e}, e ∈ ((a.allDependencies.flatMap (dependencyEntries a)).filter
      fun e => e.1 = t).map Prod.snd ↔ e ∈ a.allDependencies ∧ a.Concerns t e := by
    intro e
    simp only [List.mem_map, List.mem_filter, List.mem_flatMap, decide_eq_true_eq]
    constructor
    · rintro ⟨⟨_, _⟩, ⟨⟨d, hd, hmem⟩, rfl⟩, rfl⟩
      obtain ⟨rfl, hconcerns⟩ := mem_dependencyEntries.mp hmem
      exact ⟨hd, hconcerns⟩
    · rintro ⟨he, hconcerns⟩
      exact ⟨(t, e), ⟨⟨e, he, mem_dependencyEntries.mpr ⟨rfl, hconcerns⟩⟩, rfl⟩, rfl⟩
  rw [lookup_dependencies, Dependency.mem_set, hfiled]
  intro d hd e he hkey
  exact eq_of_mem_allDependencies (hfiled.mp hd).1 (hfiled.mp he).1 hkey

end Atlas

namespace Linker

open Atlas

/-- **The dependencies on a class are exactly the dependencies of imported classes that concern
it**: it is their target, or it is the class inside the array layers of their target, is not
primitive and is not where they start.  They are in order. -/
theorem dependenciesTo_eq_concerning {context : ImportContext} {a : Atlas}
    (h : Completed context a) (t : ClassId) :
    Dependency.Ascending (a.dependenciesTo t) ∧
    ∀ d, d ∈ a.dependenciesTo t ↔
      (∃ c, (a.cls c).imported = true ∧ d ∈ a.dependenciesFrom c) ∧
      (d.target = t ∨
        (a.baseComponent d.target = t ∧ (a.cls t).isPrimitive = false ∧ t ≠ d.origin)) := by
  obtain ⟨s, hs, rfl⟩ := h.exists_valid
  refine ⟨ascending_dependenciesTo _ t, fun d => ?_⟩
  simp only [mem_dependenciesTo, mem_allDependencies, Concerns, hs.mem_imported]

/-- A class with an array of itself, an array of arrays of another class and an array of numbers. -/
def arraysBatch : Batch :=
  ⟨[{ name := "a.A", fields :=
        [{ name := "own", type := .cls "a.A[]" }, { name := "others", type := .cls "a.B[][]" },
          { name := "numbers", type := .cls "int[]" }] },
    { name := "a.B", superclass := some (.cls "a.A") }]⟩

/-- The dependency on the arrays of arrays is also one on the class inside of them.  The other two
are dependencies on arrays only. -/
theorem dependenciesTo_eq_concerning_arraysBatch :
    ∃ a c b d own numbers, Completed arraysBatch.context a ∧ (a.cls c).name = "a.A" ∧
      (a.cls b).name = "a.B" ∧ (a.cls d.target).name = "[[La.B;" ∧ d ∈ a.dependenciesTo b ∧
      d ∈ a.dependenciesTo d.target ∧ (a.cls own.target).name = "[La.A;" ∧
      own ∈ a.dependenciesTo own.target ∧ own ∉ a.dependenciesTo c ∧
      (a.cls numbers.target).name = "[I" ∧ numbers ∈ a.dependenciesTo numbers.target ∧
      numbers ∉ a.dependenciesTo (a.baseComponent numbers.target) := by
  obtain ⟨a, ha, hcompleted⟩ := exists_link arraysBatch (by decide +kernel)
  have hA : Registry.Denotes "a.A".toList (.object "a.A") := .className rfl
  have hB : Registry.Denotes "a.B".toList (.object "a.B") := .className rfl
  obtain ⟨c, hc, hctype, -⟩ := exists_follows (r := arraysBatch.classes[0]) ha rfl hA
  obtain ⟨b, hb, hbtype, -⟩ := exists_follows (r := arraysBatch.classes[1]) ha rfl hB
  obtain ⟨t, rfl, hcontext, hfinished⟩ := finished_of_link ha
  have hnamed := hfinished.wf.named
  have hfield : ∀ f ∈ arraysBatch.classes[0].fields, ∀ type : Descriptor, type.Proper →
      f.type = .cls type.fullName → type.isArray = true →
      ∃ d ∈ t.atlas.dependenciesFrom c, d.origin = c ∧ (t.atlas.cls d.target).type = type := by
    intro f hf type hproper hsig harray
    refine hfinished.exists_dependency (b := arraysBatch) hcontext rfl hc hctype hf hsig
      (Registry.denotes_fullName hproper) ?_ ?_
    · rintro rfl
      cases harray
    · cases type <;> simp_all [Descriptor.isArray, Descriptor.isPrimitive]
  obtain ⟨d, hd, hdc, hdtype⟩ := hfield { name := "others", type := .cls "a.B[][]" }
    (by simp [arraysBatch]) (.array (.array (.object "a.B"))) (by decide) rfl rfl
  obtain ⟨own, hown, hownc, howntype⟩ := hfield { name := "own", type := .cls "a.A[]" }
    (by simp [arraysBatch]) (.array (.object "a.A")) (by decide) rfl rfl
  obtain ⟨numbers, hnumbers, -, hnumberstype⟩ := hfield { name := "numbers", type := .cls "int[]" }
    (by simp [arraysBatch]) (.array (.primitive .int)) (by decide) rfl rfl
  have hiff := fun x => (dependenciesTo_eq_concerning hcompleted x).2
  have hbase : t.atlas.baseComponent d.target = b :=
    hnamed.baseComponent_eq_of_type (target_lt hd) (lt_of_imported hb) (by rw [hdtype, hbtype]; rfl)
  refine ⟨t.atlas, c, b, d, own, numbers, hcompleted, congrArg Descriptor.name hctype,
    congrArg Descriptor.name hbtype, congrArg Descriptor.name hdtype, ?_,
    (hiff _ d).mpr ⟨⟨c, hc, hd⟩, Or.inl rfl⟩, congrArg Descriptor.name howntype,
    (hiff _ own).mpr ⟨⟨c, hc, hown⟩, Or.inl rfl⟩, ?_, congrArg Descriptor.name hnumberstype,
    (hiff _ numbers).mpr ⟨⟨c, hc, hnumbers⟩, Or.inl rfl⟩, ?_⟩
  · refine (hiff b d).mpr ⟨⟨c, hc, hd⟩, Or.inr ⟨hbase, ?_, ?_⟩⟩
    · rw [ClassNode.isPrimitive, hbtype]
      rfl
    · rw [hdc]
      exact ne_of_type hbtype hctype (by decide)
  · intro hmem
    rcases ((hiff c own).mp hmem).2 with htarget | ⟨-, -, horigin⟩
    · rw [htarget, hctype] at howntype
      cases howntype
    · exact horigin hownc.symm
  · intro hmem
    have hint := hnamed.type_baseComponent (target_lt hnumbers)
    rw [hnumberstype] at hint
    rcases ((hiff _ numbers).mp hmem).2 with htarget | ⟨-, hprimitive, -⟩
    · rw [← htarget, hnumberstype] at hint
      cases hint
    · rw [ClassNode.isPrimitive, hint] at hprimitive
      cases hprimitive

end Linker

end ClassAtlas
