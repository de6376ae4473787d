import ClassAtlas.Proofs.Dependency.Index
import ClassAtlas.Proofs.Linker.Finished

/-!
# Signatures in the index

Fields are found by the class that their type erases to, methods and constructors by the classes of
their parameters, methods by the class that they return.  A member is listed for a class as often as
the class occurs; so a method with two parameters of one class is listed twice for it.

* `ReverseIndex.Lists` — a map that lists members by classes of their signatures.
* `Completed.lookup_eq_flatMap` — **what such a map has for a class**.
* `signatures_counted` — **how often a member is listed for a class**.
* `methodsWithParameter_repeats` — a method that is listed twice.
-/

namespace ClassAtlas

/-- The class that the return type of a code unit erases to. -/
def Member.rawReturns? (m : Member) : Option ClassId :=
  m.codeUnit?.bind (·.rawReturns)

namespace ReverseIndex

/-- A map lists members by classes of their signatures, and nothing else. -/
structure Lists (view : ReverseIndex → Multimap ClassId MemberId)
    (types : Member → List ClassId) : Prop
    extends Signed view fun m => (types m).map fun type => (type, m.id) where
  empty : view {} = ∅
  apart : Apart view

lemma lists_fields : Lists fields fun m => m.rawFieldType?.toList where
  empty := rfl
  apart _ _ _ _ := rfl
  frame _ _ _ _ := rfl
  signature m x := by
    rcases hbody : m.body with ⟨type, raw⟩ | ⟨_ | _ | _, unit⟩ <;>
      simp only [addSignature, Member.rawFieldType?, hbody] <;> rfl

lemma lists_methodParameters :
    Lists methodParameters fun m => if m.isMethod then m.rawParameters else [] where
  empty := rfl
  apart _ _ _ _ := rfl
  frame _ _ _ _ := rfl
  signature m x := by
    rcases hbody : m.body with ⟨type, raw⟩ | ⟨_ | _ | _, unit⟩ <;>
      simp [addSignature, Member.isMethod, Member.codeKind?, Member.rawParameters,
        Member.parameters, Member.codeUnit?, hbody]

lemma lists_methodReturns :
    Lists methodReturns fun m => if m.isMethod then m.rawReturns?.toList else [] where
  empty := rfl
  apart _ _ _ _ := rfl
  frame _ _ _ _ := rfl
  signature m x := by
    rcases hbody : m.body with ⟨type, raw⟩ | ⟨_ | _ | _, unit⟩ <;>
      simp [addSignature, Member.isMethod, Member.codeKind?, Member.rawReturns?,
        Member.codeUnit?, hbody]

lemma lists_constructorParameters :
    Lists constructorParameters fun m => if m.isConstructor then m.rawParameters else [] where
  empty := rfl
  apart _ _ _ _ := rfl
  frame _ _ _ _ := rfl
  signature m x := by
    rcases hbody : m.body with ⟨type, raw⟩ | ⟨_ | _ | _, unit⟩ <;>
      simp [addSignature, Member.isConstructor, Member.codeKind?, Member.rawParameters,
        Member.parameters, Member.codeUnit?, hbody]

end ReverseIndex

namespace Linker

open Atlas ReverseIndex

variable {context : ImportContext} {a : Atlas} {m : MemberId} {type : ClassId}
  {view : ReverseIndex → Multimap ClassId MemberId} {types : Member → List ClassId}

lemma count_toList {x : Option ClassId} :
    x.toList.count type = if x = some type then 1 else 0 := by
  cases x <;> simp [List.count_singleton]

/-- **What a map of signatures has for a class**: each member of an imported class, as often as the
class occurs in its signature. -/
theorem Completed.lookup_eq_flatMap (h : Completed context a) (hview : Lists view types)
    (type : ClassId) :
    (view a.reverseIndex).lookup type =
      a.importedMembers.flatMap fun m => List.replicate ((types (a.member m)).count type) m := by
  rw [lookup_reverseIndex_of_apart hview.apart hview.empty (hview.addElements a),
    ← List.flatMap_assoc, List.filter_flatMap, List.map_flatMap]
  refine List.flatMap_congr fun m hm => ?_
  rw [h.id_eq hm, List.filter_map, List.map_map, List.count_eq_length_filter]
  exact List.map_const' ..

/-- A member of an imported class is listed as often as the class occurs in its signature. -/
lemma Completed.count_lookup (h : Completed context a) (hview : Lists view types)
    (hm : m ∈ a.importedMembers) :
    ((view a.reverseIndex).lookup type).count m = (types (a.member m)).count type := by
  rw [h.lookup_eq_flatMap hview, List.count_flatMap,
    List.sum_map_eq_nsmul_single m _ fun n hne _ => ?_,
    List.count_eq_one_of_mem h.nodup_importedMembers hm, one_nsmul]
  · exact List.count_replicate_self
  · exact List.count_eq_zero.mpr fun hmem => hne (List.eq_of_mem_replicate hmem).symm

/-- Nothing but members of imported classes is listed. -/
lemma Completed.not_mem_lookup (h : Completed context a) (hview : Lists view types)
    (hm : m ∉ a.importedMembers) : m ∉ (view a.reverseIndex).lookup type := by
  rw [h.lookup_eq_flatMap hview, List.mem_flatMap]
  rintro ⟨n, hn, hmem⟩
  exact hm (List.eq_of_mem_replicate hmem ▸ hn)

/-- **How often a member is listed for a class.**  Of the members of imported classes, a field is
listed once for the class of its type and a method once for the class that it returns; methods and
constructors are listed for a class once for each parameter of it.  Nothing else is listed. -/
theorem signatures_counted (h : Completed context a) (type : ClassId) (m : MemberId) :
    ((∃ c, (a.cls c).imported = true ∧ m ∈ (a.cls c).members) →
      (a.fieldsOfType type).count m =
        (if (a.member m).rawFieldType? = some type then 1 else 0) ∧
      (a.methodsWithParameter type).count m =
        (if (a.member m).isMethod then (a.member m).rawParameters.count type else 0) ∧
      (a.methodsReturning type).count m =
        (if (a.member m).isMethod ∧ (a.member m).rawReturns? = some type then 1 else 0) ∧
      (a.constructorsWithParameter type).count m =
        (if (a.member m).isConstructor then (a.member m).rawParameters.count type else 0)) ∧
    ((¬ ∃ c, (a.cls c).imported = true ∧ m ∈ (a.cls c).members) →
      m ∉ a.fieldsOfType type ∧ m ∉ a.methodsWithParameter type ∧ m ∉ a.methodsReturning type ∧
        m ∉ a.constructorsWithParameter type) := by
  rw [← h.mem_importedMembers]
  refine ⟨fun hm => ⟨?_, ?_, ?_, ?_⟩, fun hm => ⟨?_, ?_, ?_, ?_⟩⟩
  · rw [fieldsOfType, h.count_lookup lists_fields hm, count_toList]
  · rw [methodsWithParameter, h.count_lookup lists_methodParameters hm]
    split_ifs <;> rfl
  · rw [methodsReturning, h.count_lookup lists_methodReturns hm]
    by_cases hmethod : (a.member m).isMethod = true
    · simp only [hmethod, if_true, true_and, count_toList]
    · simp [hmethod]
  · rw [constructorsWithParameter, h.count_lookup lists_constructorParameters hm]
    split_ifs <;> rfl
  · exact h.not_mem_lookup lists_fields hm
  · exact h.not_mem_lookup lists_methodParameters hm
  · exact h.not_mem_lookup lists_methodReturns hm
  · exact h.not_mem_lookup lists_constructorParameters hm

/-- A class with a method that has two parameters of another class. -/
def pairingClass : Record.Class :=
  { name := "a.A", methods := [.method "m" ["a.B", "a.B"] "void"] }

/-- The two parameters are of the same class. -/
lemma exists_pairing :
    ∃ a c type m, Completed (Batch.context ⟨[pairingClass]⟩) a ∧ (a.cls c).imported = true ∧
      m ∈ (a.cls c).members ∧ (a.cls type).name = "a.B" ∧ (a.member m).isMethod = true ∧
      (a.member m).rawParameters = [type, type] := by
  obtain ⟨v, c, m, hcompleted, hfinished, hc, -, hmem, hm⟩ :=
    exists_unitFinished ⟨[pairingClass]⟩ pairingClass (by decide +kernel) rfl (.className rfl)
      (List.mem_cons_self ..)
  have hB : Registry.Denotes "a.B".toList (.object "a.B") := .className rfl
  have htypes := hm.map_rawParameters hfinished.wf
    (.cons ⟨"a.B", rfl, hB⟩ (.cons ⟨"a.B", rfl, hB⟩ .nil))
  obtain ⟨p, rest, hparameters, hp, hrest⟩ := List.map_eq_cons_iff.mp htypes
  obtain ⟨q, rest, rfl, hq, hrest⟩ := List.map_eq_cons_iff.mp hrest
  obtain rfl := List.map_eq_nil_iff.mp hrest
  have hlt : ∀ d ∈ [p, q], d.index < v.atlas.classes.size := fun d hd =>
    hm.rawParameter_lt hfinished.wf (hparameters ▸ hd)
  have hpq : p = q := hfinished.wf.named.name_inj (hlt p (by simp)) (hlt q (by simp))
    (congrArg Descriptor.name (hp.trans hq.symm))
  exact ⟨v.atlas, c, p, m, hcompleted, hc, hmem, congrArg Descriptor.name hp,
    beq_iff_eq.mpr hm.codeKind, by rw [hparameters, hpq]⟩

theorem signatures_counted_pairingClass :
    ∃ a c type m, Completed (Batch.context ⟨[pairingClass]⟩) a ∧ (a.cls c).imported = true ∧
      m ∈ (a.cls c).members ∧ (a.cls type).name = "a.B" ∧ (a.member m).isMethod = true ∧
      (a.member m).rawParameters = [type, type] ∧ (a.fieldsOfType type).count m = 0 ∧
      (a.methodsWithParameter type).count m = 2 ∧
      (a.constructorsWithParameter type).count m = 0 := by
  obtain ⟨a, c, type, m, hcompleted, hc, hm, hname, hmethod, hparameters⟩ := exists_pairing
  obtain ⟨hlisted, -⟩ := signatures_counted hcompleted type m
  obtain ⟨hfields, hmethods, -, hconstructors⟩ := hlisted ⟨c, hc, hm⟩
  refine ⟨a, c, type, m, hcompleted, hc, hm, hname, hmethod, hparameters, ?_, ?_, ?_⟩
  · rw [hfields, if_neg]
    rcases hbody : (a.member m).body <;>
      simp_all [Member.isMethod, Member.codeKind?, Member.rawFieldType?]
  · rw [hmethods, if_pos hmethod, hparameters]
    simp
  · rw [hconstructors, if_neg]
    simp [Member.isConstructor, beq_iff_eq.mp hmethod]

/-- **A method is listed twice for the class of two of its parameters**: `a.A.m(a.B, a.B)` for
`a.B`. -/
theorem methodsWithParameter_repeats :
    ∃ a c type m, Completed (Batch.context ⟨[pairingClass]⟩) a ∧ (a.cls c).imported = true ∧
      m ∈ (a.cls c).members ∧ (a.cls type).name = "a.B" ∧ (a.member m).isMethod = true ∧
      type ∈ (a.member m).rawParameters ∧ (a.methodsWithParameter type).count m ≠ 1 := by
  obtain ⟨a, c, type, m, hcompleted, hc, hm, hname, hmethod, hparameters⟩ := exists_pairing
  refine ⟨a, c, type, m, hcompleted, hc, hm, hname, hmethod, by simp [hparameters], ?_⟩
  rw [methodsWithParameter, hcompleted.count_lookup lists_methodParameters
    (hcompleted.mem_importedMembers.mpr ⟨c, hc, hm⟩), if_pos hmethod, hparameters]
  simp

end Linker

end ClassAtlas
