import ClassAtlas.Proofs.Linker.Acyclic
import ClassAtlas.Proofs.Search.FirstFound
import ClassAtlas.Resolution

/-!
# Resolving fields

The virtual machine looks a field up in a class, then from each of its interfaces in turn, and then
from its superclass, each time in the same way.  Resolution goes through the classes above the owner
of the target once, in the order of field lookup.

* `lookupField?` — the way of the virtual machine, where no class is above itself.
* `resolveField?_eq_lookupField?` — resolution finds the same.
* `resolve?_field` — **what a field target resolves to**, on cyclic hierarchies too.
-/

namespace ClassAtlas

open Search

namespace Atlas

variable {a : Atlas} {c : ClassId} {t : Target} {name : String}

/-! ## The plain lookup -/

/-- The field of a name, looked up in the class, then from each interface in turn, and then from the
superclass.  Classes that are above several of them are looked at as often as they are met. -/
def lookupField? (a : Atlas) (h : a.Acyclic) (name : String) (c : ClassId) : Option MemberId :=
  a.field? c name <|>
    ((a.cls c).rawInterfaces.attach.findSome? fun i => a.lookupField? h name i.1) <|>
      (a.cls c).rawSuperclass.attach.bind fun s => a.lookupField? h name s.1
termination_by (a.fieldLookupOrder c).length
decreasing_by
  · exact h.length_lt (.single (List.mem_append_right _ i.2))
  · exact h.length_lt (.single (List.mem_append_left _ (Option.mem_toList.mpr s.2)))

lemma lookupField?_eq (h : a.Acyclic) (name : String) (c : ClassId) :
    a.lookupField? h name c = (a.field? c name <|>
      (a.cls c).rawInterfaces.findSome? (a.lookupField? h name) <|>
        (a.cls c).rawSuperclass.bind (a.lookupField? h name)) := by
  rw [lookupField?, List.findSome?_subtype (g := a.lookupField? h name) fun _ _ => rfl,
    List.unattach_attach, Option.bind_attach, Option.pbind_eq_bind]

/-- Interfaces and superclass are looked through as one row. -/
lemma plainLook_lookupField? (h : a.Acyclic) (name : String) :
    PlainLook a.fieldSupertypes (a.field? · name) (a.lookupField? h name) := by
  intro c
  rw [lookupField?_eq, fieldSupertypes, List.findSome?_append]
  cases (a.cls c).rawSuperclass <;> simp

/-- Passing over classes that are met again makes no difference. -/
lemma resolveField?_eq_lookupField? (h : a.Acyclic) (t : Target) :
    a.resolveField? t = a.lookupField? h t.name t.owner := by
  refine (plainLook_lookupField? h t.name).findSome?_depthFirst (fun c p hp hback => ?_)
    (fun c hc => mem_classIds (lt_of_fieldSupertypes hc)) a.card_classIds_le t.owner
  exact h.not_above (mem_fieldSupertypes.mp hp) (reaches_fieldSupertypes.mp hback)

/-! ## Resolution -/

lemma field?_eq_none_iff :
    a.field? c name = none ↔ ∀ m ∈ a.fields c, (a.member m).name ≠ name := by
  simp only [field?, fields, declared, List.head?_eq_none_iff, List.filter_eq_nil_iff,
    List.mem_filter, Bool.and_eq_true, beq_iff_eq]
  tauto

lemma resolveField?_eq_none_iff :
    a.resolveField? t = none ↔ ∀ m ∈ a.allFields t.owner, (a.member m).name ≠ t.name := by
  simp only [resolveField?, List.findSome?_eq_none_iff, field?_eq_none_iff, allFields,
    List.mem_flatMap]
  exact ⟨fun h m ⟨d, hd, hm⟩ => h d hd m hm, fun h d hd m hm => h m ⟨d, hd, hm⟩⟩

/-- **What a field target resolves to.**  Where no class is above itself, it is what the plain
lookup finds.  In any hierarchy the order of lookup starts with the class and lists every class
above it, each once, and no bound cuts it short; so a target is left unresolved only if no class
above its owner has a field of that name. -/
theorem resolve?_field (a : Atlas) :
    (∀ (h : a.Acyclic) (t : Target), t.kind = .field →
      a.resolve? t = a.lookupField? h t.name t.owner) ∧
    (∀ c, (a.fieldLookupOrder c).head? = some c ∧ (a.fieldLookupOrder c).Nodup ∧
      (∀ d, d ∈ a.fieldLookupOrder c ↔
        Relation.ReflTransGen (fun x p => p ∈ (a.cls x).rawSupertypes) c d) ∧
      ∀ bound ≥ a.classes.size, depthFirst a.fieldSupertypes bound c = a.fieldLookupOrder c) ∧
    ∀ t : Target, t.kind = .field →
      (a.resolve? t = none ↔ ∀ m ∈ a.allFields t.owner, (a.member m).name ≠ t.name) := by
  refine ⟨fun h t hkind => ?_, fun c => ⟨?_, nodup_depthFirst, fun d => mem_fieldLookupOrder, ?_⟩,
    fun t hkind => ?_⟩
  · rw [resolve?, hkind]
    exact resolveField?_eq_lookupField? h t
  · obtain ⟨rest, hrest⟩ := depthFirst_eq_cons a.fieldSupertypes a.classes.size c
    exact congrArg List.head? hrest
  · exact fun bound hbound => depthFirst_eq_of_le
      (fun d hd => mem_classIds (lt_of_fieldSupertypes hd)) a.card_classIds_le hbound
  · rw [resolve?, hkind]
    exact resolveField?_eq_none_iff

end Atlas

namespace Linker

open Atlas

/-- The only member of a class is a field. -/
lemma exists_field?_of_outline {a : Atlas} {c : ClassId} {name : String}
    (h : a.outline c = [(none, name)]) : ∃ m ∈ (a.cls c).members, a.field? c name = some m := by
  obtain ⟨m, hmembers, hm⟩ := List.map_eq_singleton_iff.mp h
  rw [Prod.mk.injEq] at hm
  refine ⟨m, by simp [hmembers], ?_⟩
  simp [field?, declared, hmembers, Member.isField, hm]

/-- A class whose superclass and whose interface have a field of the same name. -/
def twoFieldsBatch : Batch :=
  ⟨[{ name := "a.I", kind := .interface, fields := [{ name := "f", type := .cls "int" }] },
    { name := "a.B", fields := [{ name := "f", type := .cls "int" }] },
    { name := "a.C", superclass := some (.cls "a.B"), interfaces := [.cls "a.I"] }]⟩

/-- The field of the interface comes first. -/
theorem resolve?_field_twoFieldsBatch :
    ∃ a i, ∃ t : Target, Completed twoFieldsBatch.context a ∧ (a.cls i).name = "a.I" ∧
      (a.cls t.owner).name = "a.C" ∧ t.kind = .field ∧ t.name = "f" ∧
      ∃ h : a.Acyclic, a.resolve? t = a.lookupField? h "f" t.owner ∧
        ∃ m, a.resolve? t = some m ∧ (a.member m).owner = i := by
  obtain ⟨a, ha, hcompleted⟩ := exists_link twoFieldsBatch (by decide +kernel)
  have hI : Registry.Denotes "a.I".toList (.object "a.I") := .className rfl
  have hC : Registry.Denotes "a.C".toList (.object "a.C") := .className rfl
  obtain ⟨i, hi, hitype, hifollows⟩ := exists_follows (r := twoFieldsBatch.classes[0]) ha rfl hI
  obtain ⟨c, hc, hctype, hcfollows⟩ := exists_follows (r := twoFieldsBatch.classes[2]) ha rfl hC
  have hacyclic : a.Acyclic :=
    acyclic_of_link ha ["java.lang.Object", "a.I", "a.B", "a.C"].idxOf (by decide +kernel)
  obtain ⟨s, hvalid, rfl⟩ := hcompleted.exists_valid
  have hinterfaces := rawInterfaces_of_follows hcfollows hvalid.wf.named (lt_of_imported hi)
    (hitype ▸ hI) rfl
  obtain ⟨m, hm, hfield⟩ := exists_field?_of_outline hifollows.members
  have hnone : s.atlas.field? c "f" = none := by
    have hmembers := List.map_eq_nil_iff.mp hcfollows.members
    simp [field?, declared, hmembers]
  obtain ⟨heq, -⟩ := resolve?_field s.atlas
  let t : Target := ⟨.field, c, "f", [], object, "a.C.f"⟩
  have hresolve := heq hacyclic t rfl
  refine ⟨s.atlas, i, t, hcompleted, congrArg Descriptor.name hitype,
    congrArg Descriptor.name hctype, rfl, rfl, hacyclic, hresolve, m, ?_,
    (hcompleted.consistent.owner hm).2⟩
  rw [hresolve, lookupField?_eq]
  simp [t, hnone, hinterfaces, lookupField?_eq hacyclic "f" i, hfield]

end Linker

end ClassAtlas
