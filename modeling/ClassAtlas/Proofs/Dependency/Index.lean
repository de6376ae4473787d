import ClassAtlas.Dependency.Reverse
import ClassAtlas.Proofs.Linker.Spelling

/-!
# What the index notes

The index is filled by loops over accesses, classes, members and parameters, which put entries into
its maps.  For each map it is enough to know which entries one turn of a loop notes; a loop notes
the entries of its turns one after the other.

* `ReverseIndex.Notes` — a step notes some entries in a map; `Notes.foldl` — so does a loop.
* `ReverseIndex.Signed` — a map that only signatures are noted in, of all that a class says.
* `lookup_reverseIndex` — **a map of the index has the entries of the accesses, then those of the
  imported classes, in order**.
* `Atlas.importedMembers` — the members of imported classes, each listed once.
-/

namespace ClassAtlas

namespace ReverseIndex

variable {α κ υ : Type} [DecidableEq κ] [Hashable κ] {view : ReverseIndex → Multimap κ υ}
  {step step' : ReverseIndex → ReverseIndex} {entries entries' : List (κ × υ)} {a : Atlas}

/-- A step notes entries in one of the maps, behind those that are there. -/
def Notes (view : ReverseIndex → Multimap κ υ) (step : ReverseIndex → ReverseIndex)
    (entries : List (κ × υ)) : Prop :=
  ∀ x, view (step x) = (view x).insertAll entries

lemma Notes.nothing (h : ∀ x, view (step x) = view x) : Notes view step [] :=
  h

lemma Notes.trans (h : Notes view step entries) (h' : Notes view step' entries') :
    Notes view (fun x => step' (step x)) (entries ++ entries') := by
  intro x
  rw [h', h, Multimap.insertAll_append]

lemma Notes.foldl {turn : ReverseIndex → α → ReverseIndex} {noted : α → List (κ × υ)}
    (h : ∀ e, Notes view (turn · e) (noted e)) (es : List α) :
    Notes view (es.foldl turn) (es.flatMap noted) := by
  induction es with
  | nil => exact .nothing fun _ => rfl
  | cons e es ih => exact (h e).trans ih

/-- A loop whose turns note nothing notes nothing. -/
lemma Notes.foldl_nothing {turn : ReverseIndex → α → ReverseIndex}
    (h : ∀ e, Notes view (turn · e) []) (es : List α) : Notes view (es.foldl turn) [] := by
  have hloop := Notes.foldl h es
  rwa [List.flatMap_eq_nil_iff.mpr fun _ _ => rfl] at hloop

/-! ## What classes and members say -/

/-- Of all that a class says, only the signatures of its members are noted in a map. -/
structure Signed (view : ReverseIndex → Multimap κ υ) (noted : Member → List (κ × υ)) : Prop where
  frame : ∀ x annots checks objects,
    view { x with annots := annots, instanceofChecks := checks, classObjects := objects } = view x
  signature : ∀ m, Notes view (addSignature · m) (noted m)

namespace Signed

variable {noted : Member → List (κ × υ)} (h : Signed view noted)
include h

lemma addAnnots (element : Element) (annots : List Annot) :
    Notes view (addAnnots · element annots) [] :=
  .nothing fun x => h.frame x _ x.instanceofChecks x.classObjects

lemma addBody (m : Member) : Notes view (addBody · m) [] := by
  refine .nothing fun x => ?_
  rw [ReverseIndex.addBody]
  split
  · exact h.frame x x.annots _ _
  · rfl

lemma addMember (m : Member) : Notes view (addMember · m) (noted m) := by
  have hparameters : Notes view (addParameters · m) [] :=
    .foldl_nothing (fun p : Param => h.addAnnots (.parameter m.id p.position) p.annotations)
      m.parameters
  have hall := (((h.addAnnots (.member m.id) m.annotations).trans (h.signature m)).trans
    hparameters).trans (h.addBody m)
  rw [List.nil_append, List.append_nil, List.append_nil] at hall
  exact hall

lemma addElements (a : Atlas) (c : ClassId) :
    Notes view (addElements a · c) ((a.cls c).members.flatMap fun m => noted (a.member m)) :=
  (h.addAnnots (.cls (a.cls c).id) (a.cls c).annotations).trans
    (Notes.foldl (fun m => h.addMember (a.member m)) (a.cls c).members)

end Signed

/-- Signatures are not noted as accesses or dependencies. -/
lemma addSignature_frame (x : ReverseIndex) (m : Member) :
    (x.addSignature m).ownerAccesses = x.ownerAccesses ∧
      (x.addSignature m).constructorAccesses = x.constructorAccesses ∧
      (x.addSignature m).dependencies = x.dependencies := by
  rcases hbody : m.body with ⟨type, raw⟩ | ⟨_ | _ | _, unit⟩ <;> simp [addSignature, hbody]

lemma Signed.addElements_nothing (h : Signed view fun _ => []) (a : Atlas) (c : ClassId) :
    Notes view (ReverseIndex.addElements a · c) [] := by
  have helements := h.addElements a c
  rwa [List.flatMap_eq_nil_iff.mpr fun _ _ => rfl] at helements

/-! ## Maps without accesses and dependencies -/

/-- A map has nothing to do with accesses and dependencies. -/
def Apart (view : ReverseIndex → Multimap κ υ) : Prop :=
  ∀ x owners constructors dependencies,
    view { x with
      ownerAccesses := owners
      constructorAccesses := constructors
      dependencies := dependencies } = view x

lemma Apart.addAccess (h : Apart view) (access : Access) : Notes view (addAccess · access) [] := by
  refine .nothing fun x => ?_
  rw [ReverseIndex.addAccess]
  split_ifs
  · exact h x _ _ x.dependencies
  · exact h x _ x.constructorAccesses x.dependencies

lemma Apart.addDependency (h : Apart view) (a : Atlas) (d : Dependency) :
    Notes view (addDependency a · d) [] := by
  refine .nothing fun x => ?_
  rw [ReverseIndex.addDependency]
  split_ifs <;> exact h x x.ownerAccesses x.constructorAccesses _

end ReverseIndex

namespace Atlas

open ReverseIndex

variable {a : Atlas} {κ υ : Type} [DecidableEq κ] [Hashable κ]
  {view : ReverseIndex → Multimap κ υ}

/-- **A map of the index has the entries of the accesses, then those of the imported classes, in
order**, if it has none to start with. -/
theorem lookup_reverseIndex {ofAccess : Access → List (κ × υ)} {ofClass : ClassId → List (κ × υ)}
    {key : κ} {f : List υ → List υ} (hempty : view {} = ∅)
    (haccess : ∀ x : Access, Notes view (ReverseIndex.addAccess · x) (ofAccess x))
    (hclass : ∀ c, Notes view (addClass a · c) (ofClass c))
    (hsettle : ∀ x, (view x.settle).lookup key = f ((view x).lookup key)) :
    (view a.reverseIndex).lookup key =
      f (((a.accesses.toList.flatMap ofAccess ++ a.imported.toList.flatMap ofClass).filter
        fun e => e.1 = key).map Prod.snd) := by
  have hnotes := (Notes.foldl haccess a.accesses.toList).trans
    (Notes.foldl hclass a.imported.toList) {}
  rw [reverseIndex, hsettle, hnotes, hempty, Multimap.lookup_insertAll, Multimap.lookup_empty,
    List.nil_append]

/-- What classes and members say about a class, if that is all that a map holds. -/
lemma lookup_reverseIndex_of_apart {noted : ClassId → List (κ × υ)} (hapart : Apart view)
    (hempty : view {} = ∅) (helements : ∀ c, Notes view (addElements a · c) (noted c)) (key : κ) :
    (view a.reverseIndex).lookup key =
      ((a.imported.toList.flatMap noted).filter fun e => e.1 = key).map Prod.snd := by
  have hclass : ∀ c, Notes view (addClass a · c) (noted c) := by
    intro c
    have hall := (helements c).trans
      (Notes.foldl_nothing (hapart.addDependency a) (a.dependenciesFrom c))
    rwa [List.append_nil] at hall
  rw [lookup_reverseIndex (f := id) hempty hapart.addAccess hclass
    fun x => congrArg (·.lookup key) (hapart x x.ownerAccesses x.constructorAccesses _),
    List.flatMap_eq_nil_iff.mpr fun _ _ => rfl, List.nil_append]
  rfl

/-- The members of the imported classes, in order. -/
def importedMembers (a : Atlas) : List MemberId :=
  a.imported.toList.flatMap fun c => (a.cls c).members

end Atlas

namespace Linker

open Atlas

variable {context : ImportContext} {a : Atlas} {m : MemberId}

lemma Completed.mem_imported (h : Completed context a) {c : ClassId} :
    c ∈ a.imported.toList ↔ (a.cls c).imported = true := by
  obtain ⟨s, hs, rfl⟩ := h.exists_sound
  exact hs.valid.mem_imported c

/-- A member belongs to one class only, which lists it once. -/
lemma Completed.nodup_members (h : Completed context a) (c : ClassId) :
    (a.cls c).members.Nodup := by
  obtain ⟨s, hs, rfl⟩ := h.exists_sound
  refine List.nodup_iff_count_le_one.mpr fun m => ?_
  by_cases hm : m ∈ (s.atlas.cls c).members
  · obtain ⟨hlt, rfl⟩ := h.consistent.owner hm
    exact (hs.integral.listed m hlt).le
  · simp [List.count_eq_zero_of_not_mem hm]

/-- **The members of imported classes are listed once each.** -/
lemma Completed.nodup_importedMembers (h : Completed context a) : a.importedMembers.Nodup := by
  refine List.nodup_flatMap.mpr ⟨fun c _ => h.nodup_members c, ?_⟩
  have himported : a.imported.toList.Nodup := by
    obtain ⟨s, hs, rfl⟩ := h.exists_sound
    exact hs.valid.nodup
  refine himported.imp fun {c d} hne m hc hd => hne ?_
  rw [← (h.consistent.owner hc).2, (h.consistent.owner hd).2]

lemma Completed.mem_importedMembers (h : Completed context a) :
    m ∈ a.importedMembers ↔ ∃ c, (a.cls c).imported = true ∧ m ∈ (a.cls c).members := by
  simp only [importedMembers, List.mem_flatMap, h.mem_imported]

/-- The members of imported classes are what their positions say. -/
lemma Completed.id_eq (h : Completed context a) (hm : m ∈ a.importedMembers) :
    (a.member m).id = m := by
  obtain ⟨c, -, hlisted⟩ := h.mem_importedMembers.mp hm
  have hlt := (h.consistent.owner hlisted).1
  obtain ⟨s, hs, rfl⟩ := h.exists_sound
  exact hs.integral.memberId m hlt

end Linker

end ClassAtlas
