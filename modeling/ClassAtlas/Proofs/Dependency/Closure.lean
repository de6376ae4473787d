import ClassAtlas.Proofs.Dependency.Transitive

/-!
# Transitive dependencies are a closure

Following dependencies is a walk through a graph that is cyclic as a rule.  It meets the
dependencies of every class that can be reached, and no others; arrays are passed through on the
way, whatever their depth.

* `Forward`, `Backward` — one step along the dependencies of a class, and along those on a class.
* `transitive_eq_closure` — **transitive dependencies are those of all classes that can be
  reached**, in both directions.
-/

namespace ClassAtlas

namespace Atlas

variable {a : Atlas} {c o : ClassId}

/-- A class depends on another one, or on an array of it. -/
def Forward (a : Atlas) (c b : ClassId) : Prop :=
  ∃ d ∈ a.dependenciesFrom c, a.Innermost d.target b

/-- Another class, or an array of it, is where a dependency on a class starts. -/
def Backward (a : Atlas) (c b : ClassId) : Prop :=
  ∃ d ∈ a.dependenciesTo c, a.Innermost d.origin b

/-- The steps of the walk are steps along the dependencies. -/
lemma Named.reaches_following (ha : a.Named) {found : ClassId → List Dependency}
    {next : Dependency → ClassId} :
    Search.Reaches (a.following found next) o c ↔
      Relation.ReflTransGen (fun c b => ∃ d ∈ found c, a.Innermost (next d) b) o c := by
  simp only [Search.Reaches, mem_following, ha.baseComponent_eq_iff]

end Atlas

namespace Linker

open Atlas

/-- **Transitive dependencies are a closure.**  Those from a class are exactly the dependencies of
the classes that can be reached from it, itself among them, by going from a class to what is inside
the targets of its dependencies.  Those to a class are exactly the dependencies on the classes that
can be reached from it by going from a class to what is inside the origins of the dependencies on
it.  Both are in order, and none is listed twice. -/
theorem transitive_eq_closure {context : ImportContext} {a : Atlas} (h : Completed context a)
    (id : ClassId) :
    (Dependency.Ascending (a.transitiveFrom id) ∧
      ∀ d, d ∈ a.transitiveFrom id ↔
        ∃ c, Relation.ReflTransGen a.Forward id c ∧ d ∈ a.dependenciesFrom c) ∧
    (Dependency.Ascending (a.transitiveTo id) ∧
      ∀ d, d ∈ a.transitiveTo id ↔
        ∃ c, Relation.ReflTransGen a.Backward id c ∧ d ∈ a.dependenciesTo c) := by
  obtain ⟨s, hs, rfl⟩ := h.exists_valid
  have hnamed := hs.wf.named
  refine ⟨⟨Dependency.ascending_set _, fun d => ?_⟩, Dependency.ascending_set _, fun d => ?_⟩
  · rw [hnamed.mem_transitiveFrom]
    exact exists_congr fun c => and_congr_left fun _ => hnamed.reaches_following
  · rw [hnamed.mem_transitiveTo]
    exact exists_congr fun c => and_congr_left fun _ => hnamed.reaches_following

/-- The class that implements one of two interfaces, which extend each other, depends on the other
one through it, and the other one is depended on by the class. -/
theorem transitive_eq_closure_mutualInterfaces :
    ∃ a c i j, Completed mutualInterfaces.context a ∧ (a.cls c).name = "a.C" ∧
      (a.cls i).name = "a.I" ∧ (a.cls j).name = "a.J" ∧
      (∃ d ∈ a.transitiveFrom c, d.origin = i ∧ d.target = j) ∧
      (∃ d ∈ a.transitiveTo j, d.origin = c ∧ d.target = i) := by
  obtain ⟨a, ha, hcompleted⟩ := exists_link mutualInterfaces (by decide +kernel)
  have hC : Registry.Denotes "a.C".toList (.object "a.C") := .className rfl
  have hI : Registry.Denotes "a.I".toList (.object "a.I") := .className rfl
  have hJ : Registry.Denotes "a.J".toList (.object "a.J") := .className rfl
  obtain ⟨c, hc, hctype, hcfollows⟩ := exists_follows (r := mutualInterfaces.classes[0]) ha rfl hC
  obtain ⟨i, hi, hitype, hifollows⟩ := exists_follows (r := mutualInterfaces.classes[1]) ha rfl hI
  obtain ⟨j, hj, hjtype, hjfollows⟩ := exists_follows (r := mutualInterfaces.classes[2]) ha rfl hJ
  obtain ⟨s, hs, rfl⟩ := hcompleted.exists_valid
  have hnamed := hs.wf.named
  obtain ⟨d, hd, hdc, hditype⟩ := hcfollows.exists_dependency hctype
    (by simp [mutualInterfaces]) (.inl rfl) hI (by decide) rfl
  obtain ⟨e, he, hei, hejtype⟩ := hifollows.exists_dependency hitype
    (by simp [mutualInterfaces]) (.inl rfl) hJ (by decide) rfl
  have hdi := hnamed.target_eq hd (lt_of_imported hi) (hditype.trans hitype.symm)
  have hej := hnamed.target_eq he (lt_of_imported hj) (hejtype.trans hjtype.symm)
  have hinside : s.atlas.Innermost i i := hnamed.baseComponent_eq_iff.mp
    (hnamed.baseComponent_eq_of_type (lt_of_imported hi) (lt_of_imported hi) (by rw [hitype]; rfl))
  have hto : ∀ {x y : ClassId} {d : Dependency}, (s.atlas.cls x).imported = true →
      d ∈ s.atlas.dependenciesFrom x → d.target = y → d ∈ s.atlas.dependenciesTo y := by
    intro x y d hx hd htarget
    refine mem_dependenciesTo.mpr ⟨mem_allDependencies.mpr ⟨x, ?_, hd⟩, ?_⟩
    · exact (hs.mem_imported x).mpr hx
    · exact Or.inl htarget
  refine ⟨s.atlas, c, i, j, hcompleted, congrArg Descriptor.name hctype,
    congrArg Descriptor.name hitype, congrArg Descriptor.name hjtype, ⟨e, ?_, hei, hej⟩,
    d, ?_, hdc, hdi⟩
  · refine ((transitive_eq_closure hcompleted c).1.2 e).mpr ⟨i, .single ⟨d, hd, ?_⟩, he⟩
    exact hdi.symm ▸ hinside
  · refine ((transitive_eq_closure hcompleted j).2.2 d).mpr ⟨i, .single ⟨e, hto hi he hej, ?_⟩, ?_⟩
    · exact hei.symm ▸ hinside
    · exact hto hc hd hdi

end Linker

end ClassAtlas
