import ClassAtlas.Proofs.Dependency.Index
import ClassAtlas.Proofs.Linker.Finished
import ClassAtlas.Report.Annots

/-!
# Declared annotations and their uses

The report on a class lists the annotations on its elements, and where the class itself is used as
an annotation.  The first list is made by going through the elements of the class.  The second comes
from the index, which only knows where an annotation stands; the annotation is looked up again, that
on a parameter by the number of the parameter.

* `Completed.numbered` — **the parameters of all members are numbered in order**.
* `Completed.annotRefs_eq` — what the index has for a type; `annotAt?_of_mem` — **all of it is found
  again**.
* `usages_eq_declared` — **the uses of a class are the declared annotations of its type**.
-/

namespace ClassAtlas

/-! ## Numbers of parameters -/

/-- A parameter is found by its number. -/
lemma Member.Numbered.getElem?_position {m : Member} (h : m.Numbered) {p : Param}
    (hp : p ∈ m.parameters) : m.parameters[p.position]? = some p := by
  obtain ⟨i, hi, rfl⟩ := List.getElem_of_mem hp
  have hposition : m.parameters[i].position = i := by
    have hget := congrArg (·[i]?) h
    simpa [hi] using hget
  rw [hposition, List.getElem?_eq_getElem hi]

namespace Linker

open Atlas

variable {context : ImportContext} {s t : Linker} {a : Atlas}

/-- Every edit keeps the numbers of parameters. -/
lemma Edit.numbered (h : Edit s t) (hs : ∀ m, (s.atlas.member m).Numbered) (m : MemberId) :
    (t.atlas.member m).Numbered := by
  cases h with
  | grow h =>
      rw [h.atlas.member]
      exact hs m
  | addMember make _ _ _ _ _ _ hnumbered =>
      rw [Atlas.member_addMember]
      split_ifs
      · exact hnumbered _
      · exact hs m
  | member id change _ _ _ _ _ hnumbered =>
      rw [Atlas.member_modifyMember]
      split_ifs with hm
      · rw [hm.1]
        exact hnumbered (hs id)
      · exact hs m
  | supertypes id superclass interfaces =>
      have hmembers := congrArg Atlas.members
        (setSupertypes_frame id superclass interfaces s.atlas).2
      rw [Atlas.member, hmembers]
      exact hs m
  | cls | bounds | access | pending => exact hs m

/-- **The parameters of all members are numbered in order**, whatever failed. -/
theorem Completed.numbered (h : Completed context a) (m : MemberId) : (a.member m).Numbered := by
  obtain ⟨options, files, s, rs, hstart, hfinish⟩ := h
  have hstarted := start_eq_ok hstart
  have hrun := run_invariant (P := fun s => ∀ m, (s.atlas.member m).Numbered) (fun _ _ h => h)
    (fun _ _ _ hedit h => hedit.numbered h) hstarted.valid (fun m => ?_) rs
  · rw [← finish_eq_ok hfinish]
    exact hrun m
  · rw [Atlas.member, hstarted.registered.members]
    rfl

end Linker

/-! ## Annotations in the index -/

namespace ReverseIndex

/-- What is noted for the annotations on an element. -/
def annotEntries (element : Element) (annots : List Annot) : List (ClassId × AnnotRef) :=
  annots.zipIdx.map fun x => (x.1.type, ⟨element, x.2⟩)

lemma notes_addMember (m : Member) :
    Notes annots (addMember · m) (annotEntries (.member m.id) m.annotations ++
      m.parameters.flatMap fun p =>
        annotEntries (.parameter m.id p.position) p.annotations) := by
  have hsignature : Notes annots (addSignature · m) [] := by
    refine .nothing fun x => ?_
    rcases hbody : m.body with ⟨type, raw⟩ | ⟨_ | _ | _, unit⟩ <;> simp [addSignature, hbody]
  have hbody : Notes annots (addBody · m) [] := by
    refine .nothing fun x => ?_
    rcases hunit : m.codeUnit? with _ | unit <;> simp [addBody, hunit]
  have hmember : Notes annots (addAnnots · (.member m.id) m.annotations)
      (annotEntries (.member m.id) m.annotations) := fun _ => rfl
  have hparameters : Notes annots (addParameters · m) (m.parameters.flatMap fun p =>
      annotEntries (.parameter m.id p.position) p.annotations) :=
    Notes.foldl (fun _ _ => rfl) m.parameters
  have hall := ((hmember.trans hsignature).trans hparameters).trans hbody
  rw [List.append_nil, List.append_nil] at hall
  exact hall

lemma notes_addElements (a : Atlas) (c : ClassId) :
    Notes annots (addElements a · c) (annotEntries (.cls (a.cls c).id) (a.cls c).annotations ++
      (a.cls c).members.flatMap fun m =>
        annotEntries (.member (a.member m).id) (a.member m).annotations ++
          (a.member m).parameters.flatMap fun p =>
            annotEntries (.parameter (a.member m).id p.position) p.annotations) := by
  have hcls : Notes annots (addAnnots · (.cls (a.cls c).id) (a.cls c).annotations)
      (annotEntries (.cls (a.cls c).id) (a.cls c).annotations) := fun _ => rfl
  exact hcls.trans (Notes.foldl (fun m => notes_addMember (a.member m)) (a.cls c).members)

end ReverseIndex

namespace Atlas

variable {a : Atlas} {type : ClassId}

/-- The annotations of a type on the elements of imported classes, each with its place. -/
def placedAnnots (a : Atlas) (type : ClassId) : List (Element × Nat × Annot) :=
  (a.imported.toList.flatMap a.elementsOf).flatMap fun element =>
    ((a.annotsOn element).zipIdx.filter fun x => x.1.type = type).map fun x => (element, x.2, x.1)

/-- Going through the elements of a class. -/
lemma flatMap_elementsOf {β : Type} (a : Atlas) (c : ClassId) (f : Element → List β) :
    (a.elementsOf c).flatMap f = f (.cls c) ++ (a.cls c).members.flatMap fun m =>
      f (.member m) ++ (a.member m).parameters.flatMap fun p => f (.parameter m p.position) := by
  simp only [elementsOf, List.flatMap_cons, List.flatMap_assoc, List.flatMap_map]

/-- An annotation is found at its place. -/
lemma annotAt?_of_mem {x : Element × Nat × Annot} (hx : x ∈ a.placedAnnots type) :
    a.annotAt? ⟨x.1, x.2.1⟩ = some x.2.2 ∧ x.2.2.type = type := by
  obtain ⟨element, -, hx⟩ := List.mem_flatMap.mp hx
  obtain ⟨y, hy, rfl⟩ := List.mem_map.mp hx
  obtain ⟨hy, htype⟩ := List.mem_filter.mp hy
  exact ⟨List.mem_zipIdx_iff_getElem?.mp hy, of_decide_eq_true htype⟩

lemma annotsOn_parameter {m : MemberId} (h : (a.member m).Numbered) {p : Param}
    (hp : p ∈ (a.member m).parameters) :
    a.annotsOn (.parameter m p.position) = p.annotations := by
  rw [annotsOn, h.getElem?_position hp]
  rfl

end Atlas

namespace Linker

open Atlas ReverseIndex

variable {context : ImportContext} {a : Atlas}

/-- The entries of an imported class are those of its elements, one after the other. -/
lemma Completed.entries_eq (h : Completed context a) {c : ClassId} (hc : c ∈ a.imported.toList) :
    (annotEntries (.cls (a.cls c).id) (a.cls c).annotations ++
      (a.cls c).members.flatMap fun m =>
        annotEntries (.member (a.member m).id) (a.member m).annotations ++
          (a.member m).parameters.flatMap fun p =>
            annotEntries (.parameter (a.member m).id p.position) p.annotations) =
      (a.elementsOf c).flatMap fun element => annotEntries element (a.annotsOn element) := by
  have hid : (a.cls c).id = c := by
    obtain ⟨s, hs, rfl⟩ := h.exists_sound
    exact hs.valid.wf.named.position c (hs.valid.lt hc)
  rw [flatMap_elementsOf, hid]
  refine congrArg (_ ++ ·) (List.flatMap_congr fun m hm => ?_)
  rw [h.id_eq (List.mem_flatMap.mpr ⟨c, hc, hm⟩)]
  refine congrArg (_ ++ ·) (List.flatMap_congr fun p hp => ?_)
  rw [annotsOn_parameter (h.numbered m) hp]

/-- **The index has the places of the annotations of a type, in order.** -/
theorem Completed.annotRefs_eq (h : Completed context a) (type : ClassId) :
    a.annotRefs type = (a.placedAnnots type).map fun x => ⟨x.1, x.2.1⟩ := by
  have hapart : Apart annots := fun _ _ _ _ => rfl
  rw [annotRefs, lookup_reverseIndex_of_apart hapart rfl (notes_addElements a) type,
    List.flatMap_congr fun c hc => h.entries_eq hc, ← List.flatMap_assoc, List.filter_flatMap,
    List.map_flatMap, placedAnnots, List.map_flatMap]
  refine List.flatMap_congr fun element _ => ?_
  rw [annotEntries, List.filter_map, List.map_map, List.map_map]
  rfl

/-- **Every annotation of the index is found again.** -/
theorem Completed.annotsOfType_eq (h : Completed context a) (type : ClassId) :
    a.annotsOfType type = a.placedAnnots type := by
  rw [annotsOfType, h.annotRefs_eq, List.filterMap_map]
  refine (List.filterMap_congr fun x hx => ?_).trans (List.filterMap_some ..)
  rw [Function.comp_apply, (annotAt?_of_mem hx).1]
  rfl

/-- The annotations of a type on the elements of a class, with and without their places. -/
lemma map_placedAnnots {β : Type} (a : Atlas) (type : ClassId) (f : Element → Annot → β) :
    ((a.placedAnnots type).map fun x => f x.1 x.2.2) = a.imported.toList.flatMap fun c =>
      ((a.annotsWithin c).filter fun x => x.2.type = type).map fun x => f x.1 x.2 := by
  rw [placedAnnots, List.flatMap_assoc, List.map_flatMap]
  refine List.flatMap_congr fun c _ => ?_
  rw [annotsWithin, List.filter_flatMap, List.map_flatMap, List.map_flatMap]
  refine List.flatMap_congr fun element _ => ?_
  have hplaces : (a.annotsOn element).zipIdx.map Prod.fst = a.annotsOn element :=
    List.zipIdx_map_fst 0 _
  rw [List.map_map, List.filter_map, List.map_map]
  nth_rewrite 2 [← hplaces]
  rw [List.filter_map, List.map_map]
  rfl

/-- **The uses of a class are the declared annotations of its type**: those of the first imported
class, then those of the second, and so on, each list in its own order.  All that the index has for
the type is an annotation of it, and none of it is lost when the annotations are looked up. -/
theorem usages_eq_declared (h : Completed context a) (f : AnnotFormat) (type : ClassId) :
    (∀ c, (a.annotReport f c).declared =
      (a.annotsWithin c).map fun x => a.annotEntry f x.1 x.2) ∧
    (a.annotReport f type).usages = (a.imported.toList.flatMap fun c =>
      ((a.annotsWithin c).filter fun x => x.2.type = type).map fun x =>
        a.annotEntry f x.1 x.2) ∧
    (∀ ref ∈ a.annotRefs type, ∃ annot, a.annotAt? ref = some annot ∧ annot.type = type) ∧
    (a.annotsOfType type).map (fun x => AnnotRef.mk x.1 x.2.1) = a.annotRefs type := by
  refine ⟨fun c => rfl, ?_, fun ref href => ?_, ?_⟩
  · rw [← map_placedAnnots, ← h.annotsOfType_eq]
    rfl
  · rw [h.annotRefs_eq] at href
    obtain ⟨x, hx, rfl⟩ := List.mem_map.mp href
    exact ⟨x.2.2, annotAt?_of_mem hx⟩
  · rw [h.annotsOfType_eq, h.annotRefs_eq]

/-- A class with annotations of one type on itself and on the second parameter of its method. -/
def markedClass : Record.Class :=
  { name := "a.A"
    annotations := [⟨"a.N", []⟩]
    methods := [{ name := "m", parameters := [⟨.cls "a.B", []⟩, ⟨.cls "a.B", [⟨"a.N", []⟩]⟩] }] }

theorem usages_eq_declared_markedClass :
    ∃ a type m annot, Completed (Batch.context ⟨[markedClass]⟩) a ∧
      (a.cls type).name = "a.N" ∧ ⟨.parameter m 1, 0⟩ ∈ a.annotRefs type ∧
      a.annotAt? ⟨.parameter m 1, 0⟩ = some annot ∧ annot.type = type ∧
      (a.annotReport {} type).usages = (a.imported.toList.flatMap fun c =>
        ((a.annotsWithin c).filter fun x => x.2.type = type).map fun x =>
          a.annotEntry {} x.1 x.2) := by
  obtain ⟨v, c, m, hcompleted, hfinished, hc, -, hmem, hm⟩ :=
    exists_unitFinished ⟨[markedClass]⟩ markedClass (by decide +kernel) rfl (.className rfl)
      (List.mem_cons_self ..)
  obtain ⟨p, rest, -, hrest, hlist⟩ := List.forall₂_cons_left_iff.mp hm.parameters
  obtain ⟨q, rest, hq, hnil, rfl⟩ := List.forall₂_cons_left_iff.mp hrest
  rw [List.forall₂_nil_left_iff.mp hnil] at hlist
  obtain ⟨x, rest, hx, hnil, hannots⟩ := List.forall₂_cons_left_iff.mp hq.annotations
  rw [List.forall₂_nil_left_iff.mp hnil] at hannots
  have hposition : q.position = 1 := by
    have hnumbered := hcompleted.numbered m
    rw [Member.Numbered, hlist] at hnumbered
    exact (List.cons.inj (List.cons.inj hnumbered).2).1
  have helement : .parameter m 1 ∈ v.atlas.imported.toList.flatMap v.atlas.elementsOf := by
    refine List.mem_flatMap.mpr ⟨c, hcompleted.mem_imported.mpr hc, List.mem_cons_of_mem _ ?_⟩
    refine List.mem_flatMap.mpr ⟨m, hmem, List.mem_cons_of_mem _ ?_⟩
    exact List.mem_map.mpr ⟨q, by simp [hlist], by rw [hposition]⟩
  have hon : v.atlas.annotsOn (.parameter m 1) = [x] := by
    rw [← hposition, annotsOn_parameter (hcompleted.numbered m) (by simp [hlist]), hannots]
  have hplaced : (.parameter m 1, 0, x) ∈ v.atlas.placedAnnots x.type :=
    List.mem_flatMap.mpr ⟨_, helement, by simp [hon]⟩
  have href : ⟨.parameter m 1, 0⟩ ∈ v.atlas.annotRefs x.type := by
    rw [hcompleted.annotRefs_eq]
    exact List.mem_map.mpr ⟨_, hplaced, rfl⟩
  have hname := (hfinished.wf.named.denotes hx.type).unique (.className rfl)
  obtain ⟨-, husages, hfound, -⟩ := usages_eq_declared hcompleted {} x.type
  obtain ⟨annot, hannot, htype⟩ := hfound _ href
  exact ⟨v.atlas, x.type, m, annot, hcompleted, congrArg Descriptor.name hname, href, hannot,
    htype, husages⟩

end Linker

end ClassAtlas
