import ClassAtlas.Proofs.Dependency.Index
import ClassAtlas.Proofs.Linker.Finished
import ClassAtlas.Record.Builder

/-!
# The accesses to a member

The index notes every access for the class that it goes through.  The accesses to a member are
looked for among those through its owner and the classes below it only.  Nothing is missed:
resolving goes up the hierarchy, and classes are listed below their supertypes.

* `mem_ownerAccesses`, `mem_constructorAccesses` — what the index has for a class, and for the full
  name of a constructor; `mem_candidates` — the accesses that are looked at.
* `candidate_of_resolve?` — a target resolves to a member of a class above its owner.
* `Consistent.mem_candidates` — such an access is among those that are looked at.
* `accessesTo_eq_filter` — **the accesses to a member are those that resolve to it**.
-/

namespace ClassAtlas

open Search

/-! ## Accesses in the index -/

namespace ReverseIndex

variable {κ υ : Type} [DecidableEq κ] [Hashable κ] {view : ReverseIndex → Multimap κ υ}

/-- A map that only accesses are noted in. -/
structure OfAccesses (view : ReverseIndex → Multimap κ υ) (noted : Access → List (κ × υ)) : Prop
    extends Signed view fun _ => [] where
  empty : view {} = ∅
  dependencies : ∀ x ds, view { x with dependencies := ds } = view x
  access : ∀ x, Notes view (addAccess · x) (noted x)

lemma ofAccesses_owner : OfAccesses ownerAccesses fun x => [(x.target.owner, x.id)] where
  frame _ _ _ _ := rfl
  signature m := .nothing fun x => (addSignature_frame x m).1
  empty := rfl
  dependencies _ _ := rfl
  access access x := by
    change (addAccess x access).ownerAccesses = _
    rw [addAccess]
    split_ifs <;> rfl

lemma ofAccesses_constructor : OfAccesses constructorAccesses fun x =>
    if x.target.kind.isConstructor then [(x.target.fullName, x.id)] else [] where
  frame _ _ _ _ := rfl
  signature m := .nothing fun x => (addSignature_frame x m).2.1
  empty := rfl
  dependencies _ _ := rfl
  access access x := by
    change (addAccess x access).constructorAccesses = _
    rw [addAccess]
    split_ifs <;> rfl

/-- What such a map has for a key. -/
lemma OfAccesses.lookup_eq {noted : Access → List (κ × υ)} (h : OfAccesses view noted) (a : Atlas)
    (key : κ) : (view a.reverseIndex).lookup key =
      ((a.accesses.toList.flatMap noted).filter fun e => e.1 = key).map Prod.snd := by
  have hdependency : ∀ d, Notes view (addDependency a · d) [] := by
    refine fun d => .nothing fun x => ?_
    rw [addDependency]
    split_ifs <;> exact h.dependencies x _
  have hclass : ∀ c, Notes view (addClass a · c) [] := fun c =>
    (h.addElements_nothing a c).trans
      (Notes.foldl_nothing hdependency (a.dependenciesFrom c))
  rw [Atlas.lookup_reverseIndex (f := id) h.empty h.access hclass
    fun x => congrArg (·.lookup key) (h.dependencies x _), List.append_right_eq_self.mpr]
  · rfl
  · exact List.flatMap_eq_nil_iff.mpr fun _ _ => rfl

end ReverseIndex

namespace Atlas

variable {a : Atlas} {c o : ClassId} {t : Target} {m : MemberId}

/-- The index has the accesses through a class. -/
lemma mem_ownerAccesses {i : AccessId} : i ∈ a.reverseIndex.ownerAccesses.lookup c ↔
    ∃ x ∈ a.accesses.toList, x.target.owner = c ∧ x.id = i := by
  rw [ReverseIndex.ofAccesses_owner.lookup_eq]
  simp [and_assoc, @eq_comm _ c, @eq_comm _ i]

/-- The index has the accesses to constructors by their full names. -/
lemma mem_constructorAccesses {name : String} {i : AccessId} :
    i ∈ a.reverseIndex.constructorAccesses.lookup name ↔
      ∃ x ∈ a.accesses.toList,
        x.target.kind.isConstructor = true ∧ x.target.fullName = name ∧ x.id = i := by
  rw [ReverseIndex.ofAccesses_constructor.lookup_eq]
  simp [and_assoc, @eq_comm _ name, @eq_comm _ i]

/-- An access that may resolve to a member: it names the member on its owner or on a class below, or
gives the full name of a constructor. -/
def MayResolveTo (a : Atlas) (m : Member) (x : Access) : Prop :=
  (x.target.owner ∈ m.owner :: a.allSubclasses m.owner ∧
      (a.access x.id).target.name = m.name) ∨
    (m.isConstructor = true ∧ x.target.kind.isConstructor = true ∧ x.target.fullName = m.fullName)

lemma mem_candidates {m : Member} {i : AccessId} : i ∈ a.candidates a.reverseIndex m ↔
    ∃ x ∈ a.accesses.toList, a.MayResolveTo m x ∧ x.id = i := by
  rw [candidates, (List.mergeSort_perm _ _).mem_iff,
    mem_distinctBy_of_key fun ⟨_⟩ _ ⟨_⟩ _ heq => congrArg AccessId.mk heq]
  simp only [List.mem_append, List.mem_flatMap, List.mem_filter, mem_ownerAccesses, beq_iff_eq]
  constructor
  · rintro (⟨owner, howner, ⟨x, hx, rfl, rfl⟩, hname⟩ | hi)
    · exact ⟨x, hx, Or.inl ⟨howner, hname⟩, rfl⟩
    · split_ifs at hi with hconstructor
      · obtain ⟨x, hx, hkind, hname, rfl⟩ := mem_constructorAccesses.mp hi
        exact ⟨x, hx, Or.inr ⟨hconstructor, hkind, hname⟩, rfl⟩
      · cases hi
  · rintro ⟨x, hx, ⟨howner, hname⟩ | ⟨hconstructor, hkind, hname⟩, rfl⟩
    · exact Or.inl ⟨_, howner, ⟨x, hx, rfl, rfl⟩, hname⟩
    · rw [if_pos hconstructor]
      exact Or.inr (mem_constructorAccesses.mpr ⟨x, hx, hkind, hname, rfl⟩)

/-- Accesses are looked at in order, none twice. -/
lemma pairwise_candidates (a : Atlas) (m : Member) :
    (a.candidates a.reverseIndex m).Pairwise fun i j => i.index < j.index :=
  pairwise_mergeSort_of_key (fun i : AccessId => i.index) (fun _ _ => decide_eq_true_iff)
    (pairwise_distinctBy _ _)

/-! ## Resolving -/

/-- A member that a target may resolve to: it is declared above the owner of the target and is of
the right kind, and unless it is a constructor it has the name of the target. -/
structure Candidate (a : Atlas) (t : Target) (m : MemberId) : Prop where
  declared : ∃ c, a.Above t.owner c ∧ m ∈ (a.cls c).members
  leadsTo : Atlas.leadsTo t.kind (a.member m) = true
  name : (a.member m).isConstructor = false → (a.member m).name = t.name

lemma mem_of_preferred? {ms : List MemberId} (h : a.preferred? ms = some m) : m ∈ ms := by
  cases ms with
  | nil => cases h
  | cons first rest =>
      rw [preferred?, Option.some_inj] at h
      rw [← h]
      refine List.foldlRecOn rest _ (List.mem_cons_self ..) fun best hbest n hn => ?_
      split_ifs
      · exact List.mem_cons_of_mem _ hn
      · exact hbest

lemma candidate_of_mem_matchingMethods
    (hkind : t.kind = .method ∨ t.kind = .methodReference) (habove : a.Above t.owner c)
    (h : m ∈ a.matchingMethods t c) : a.Candidate t m := by
  simp only [matchingMethods, methods, declared, List.mem_filter, Bool.and_eq_true,
    beq_iff_eq] at h
  obtain ⟨⟨hmem, hmethod⟩, hname, -⟩ := h
  refine ⟨⟨c, habove, hmem⟩, ?_, fun _ => hname⟩
  rw [Member.isMethod, beq_iff_eq] at hmethod
  rcases hkind with hkind | hkind <;> simp [Atlas.leadsTo, hmethod, hkind]

lemma candidate_of_resolveField? (hkind : t.kind = .field) (h : a.resolveField? t = some m) :
    a.Candidate t m := by
  obtain ⟨c, hc, hfield⟩ := List.exists_of_findSome?_eq_some h
  have hmem := List.mem_of_mem_head? hfield
  simp only [declared, List.mem_filter, Bool.and_eq_true, beq_iff_eq] at hmem
  obtain ⟨hmem, hisField, hname⟩ := hmem
  refine ⟨⟨c, above_of_mem_fieldLookupOrder hc, hmem⟩, ?_, fun _ => hname⟩
  rw [Member.isField, Option.isNone_iff_eq_none] at hisField
  simp [Atlas.leadsTo, hisField, hkind]

lemma leadsTo_constructor {kind : TargetKind} {m : Member} (h : m.isConstructor = true) :
    Atlas.leadsTo kind m = true ↔ kind = .constructor ∨ kind = .constructorReference := by
  rw [Member.isConstructor, beq_iff_eq] at h
  cases kind <;> simp [Atlas.leadsTo, h]

lemma candidate_of_resolveConstructor?
    (hkind : t.kind = .constructor ∨ t.kind = .constructorReference)
    (h : a.resolveConstructor? t = some m) : a.Candidate t m := by
  obtain ⟨c, hc, hpreferred⟩ := List.exists_of_findSome?_eq_some h
  have hmem := mem_of_preferred? hpreferred
  simp only [constructors, declared, List.mem_filter] at hmem
  obtain ⟨⟨hmem, hconstructor⟩, -⟩ := hmem
  refine ⟨⟨c, above_of_mem_lineage hc, hmem⟩, (leadsTo_constructor hconstructor).mpr hkind,
    fun hnot => ?_⟩
  rw [hconstructor] at hnot
  cases hnot

lemma candidate_of_resolveMethod? (hkind : t.kind = .method ∨ t.kind = .methodReference)
    (h : a.resolveMethod? t = some m) : a.Candidate t m := by
  rw [resolveMethod?, Option.orElse_eq_some] at h
  rcases h with h | ⟨-, h⟩
  · obtain ⟨c, hc, hpreferred⟩ := List.exists_of_findSome?_eq_some h
    exact candidate_of_mem_matchingMethods hkind (above_of_mem_lineage hc)
      (mem_of_preferred? hpreferred)
  · obtain ⟨c, hc, hmem⟩ := List.mem_flatMap.mp (List.mem_of_mem_filter (mem_of_preferred? h))
    exact candidate_of_mem_matchingMethods hkind (above_of_mem_allInterfaces hc) hmem

/-- **A target resolves to a member of a class above its owner**, of the right kind and name. -/
theorem candidate_of_resolve? (h : a.resolve? t = some m) : a.Candidate t m := by
  rw [resolve?] at h
  rcases hkind : t.kind <;> rw [hkind] at h
  · exact candidate_of_resolveField? hkind h
  · exact candidate_of_resolveMethod? (Or.inl hkind) h
  · exact candidate_of_resolveConstructor? (Or.inl hkind) h
  · exact candidate_of_resolveMethod? (Or.inr hkind) h
  · exact candidate_of_resolveConstructor? (Or.inr hkind) h

end Atlas

namespace Linker

open Atlas

variable {context : ImportContext} {a : Atlas} {c o : ClassId} {t : Target} {m : MemberId}

/-- The records of a context name constructors, and what calls or refers to them, by the name of
constructors. -/
structure NamesConstructors (context : ImportContext) : Prop where
  record : ∀ name, ∀ r ∈ context.constructors name, r.name = constructorName
  call : ∀ key, ∀ r ∈ context.constructorCalls key, r.name = constructorName
  reference : ∀ key, ∀ r ∈ context.constructorReferences key, r.name = constructorName

lemma NamesConstructors.use (h : NamesConstructors context) {key : UnitKey} {r : Record.Use}
    (hr : r ∈ context.uses key)
    (hkind : r.kind.targetKind = .constructor ∨ r.kind.targetKind = .constructorReference) :
    r.name = constructorName := by
  simp only [ImportContext.uses, List.mem_append, List.mem_map] at hr
  obtain (((⟨f, -, rfl⟩ | ⟨d, -, rfl⟩) | ⟨d, hd, rfl⟩) | ⟨d, -, rfl⟩) | ⟨d, hd, rfl⟩ := hr
  · rcases hkind with hkind | hkind <;> cases hkind
  · rcases hkind with hkind | hkind <;> cases hkind
  · exact h.call key d hd
  · rcases hkind with hkind | hkind <;> cases hkind
  · exact h.reference key d hd

/-- It is enough to look at the records of a batch. -/
lemma namesConstructors_of_batch {b : Batch}
    (h : ∀ r ∈ b.classes, (∀ u ∈ r.constructors, u.name = constructorName) ∧
      ∀ u ∈ r.codeUnits, ∀ d ∈ u.constructorCalls ++ u.constructorReferences,
        d.name = constructorName) : NamesConstructors b.context where
  record name u hu := by
    obtain ⟨r, hr, hmem⟩ := Batch.mem_ofClass hu
    exact (h r hr).1 u hmem
  call key d hd := by
    obtain ⟨r, hr, u, hu, hmem⟩ := Batch.mem_ofUnit hd
    exact (h r hr).2 u hu d (List.mem_append_left _ hmem)
  reference key d hd := by
    obtain ⟨r, hr, u, hu, hmem⟩ := Batch.mem_ofUnit hd
    exact (h r hr).2 u hu d (List.mem_append_right _ hmem)

/-- The position of an access. -/
lemma exists_access_eq {x : Access} (hx : x ∈ a.accesses.toList) :
    ∃ i : AccessId, i.index < a.accesses.size ∧ a.access i = x := by
  obtain ⟨i, hi, rfl⟩ := List.getElem_of_mem hx
  rw [Array.length_toList] at hi
  exact ⟨⟨i⟩, hi, by simp [Atlas.access, Array.getD, hi]⟩

lemma access_mem {i : AccessId} (hi : i.index < a.accesses.size) :
    a.access i ∈ a.accesses.toList := by
  rw [Atlas.access, Array.getD, dif_pos hi, Array.mem_toList_iff]
  exact Array.getElem_mem hi

/-- An access is found by its number. -/
lemma Consistent.access_id (h : Consistent context a) {x : Access} (hx : x ∈ a.accesses.toList) :
    a.access x.id = x := by
  obtain ⟨i, hi, rfl⟩ := exists_access_eq hx
  rw [h.accessId hi]

/-- The accesses of an atlas are in ascending order. -/
lemma Consistent.pairwise_accesses (h : Consistent context a) :
    a.accesses.toList.Pairwise fun x y => x.id.index < y.id.index := by
  refine List.pairwise_iff_getElem.mpr fun i j hi hj hij => ?_
  rw [Array.length_toList] at hi hj
  have hid : ∀ {k : ℕ} (hk : k < a.accesses.size), a.accesses[k].id = ⟨k⟩ := by
    intro k hk
    have hpos := h.accessId (i := ⟨k⟩) hk
    rwa [Atlas.access, Array.getD, dif_pos hk] at hpos
  simp only [Array.getElem_toList, hid]
  exact hij

/-- The name of a target is that of every member it may resolve to, constructors included. -/
lemma Consistent.name_eq (h : Consistent context a) (hnames : NamesConstructors context)
    {x : Access} (hx : x ∈ a.accesses.toList) (hm : a.Candidate x.target m) :
    (a.member m).name = x.target.name := by
  rcases hconstructor : (a.member m).isConstructor
  · exact hm.name hconstructor
  · obtain ⟨i, hi, rfl⟩ := exists_access_eq hx
    obtain ⟨name, r, hr, hrname⟩ := h.constructor hconstructor
    obtain ⟨key, use, huse, -, hkind, husename⟩ := h.target hi
    rw [← hrname, hnames.record name r hr, husename, hnames.use huse]
    rw [← hkind]
    exact (leadsTo_constructor hconstructor).mp hm.leadsTo

/-- The kind of an access tells the kind of its target. -/
lemma Consistent.targetKind_eq (h : Consistent context a) {x : Access}
    (hx : x ∈ a.accesses.toList) : x.kind.targetKind = x.target.kind := by
  obtain ⟨i, hi, rfl⟩ := exists_access_eq hx
  obtain ⟨key, use, -, hkind, htarget, -⟩ := h.target hi
  rw [hkind, htarget]

/-- An access that resolves to a member is among those that are looked at for it. -/
lemma Consistent.mem_candidates (h : Consistent context a) (hnames : NamesConstructors context)
    {x : Access} (hx : x ∈ a.accesses.toList) (hm : a.Candidate x.target m) :
    x.id ∈ a.candidates a.reverseIndex (a.member m) := by
  obtain ⟨c, habove, hmem⟩ := hm.declared
  obtain ⟨-, rfl⟩ := h.owner hmem
  refine Atlas.mem_candidates.mpr ⟨x, hx, Or.inl ⟨?_, ?_⟩, rfl⟩
  · exact mem_allSubclasses.mpr (h.reaches_subclasses habove)
  · rw [h.access_id hx, h.name_eq hnames hx hm]

/-- Looking at fewer accesses misses none, and each is found again by its position. -/
lemma Consistent.accessesTo_eq (h : Consistent context a) (hnames : NamesConstructors context)
    (m : MemberId) :
    a.accessesTo m = a.accesses.toList.filter fun x => a.resolve? x.target = some m := by
  have hfound : ∀ i ∈ a.candidates a.reverseIndex (a.member m),
      a.access i ∈ a.accesses.toList ∧ (a.access i).id = i := by
    intro i hi
    obtain ⟨x, hx, -, rfl⟩ := Atlas.mem_candidates.mp hi
    rw [h.access_id hx]
    exact ⟨hx, rfl⟩
  have hsorted : (a.accessesTo m).Pairwise fun x y => x.id.index < y.id.index := by
    refine (List.pairwise_map.mpr ?_).filter _
    refine (a.pairwise_candidates (a.member m)).imp_of_mem fun hi hj hlt => ?_
    rwa [(hfound _ hi).2, (hfound _ hj).2]
  have hirrefl : Std.Irrefl fun x y : Access => x.id.index < y.id.index := ⟨fun _ => lt_irrefl _⟩
  refine hsorted.eq_of_mem_iff (h.pairwise_accesses.filter _) fun x => ?_
  simp only [accessesTo, List.mem_filter, List.mem_map, Bool.and_eq_true, beq_iff_eq,
    decide_eq_true_eq]
  constructor
  · rintro ⟨⟨i, hi, rfl⟩, -, hres⟩
    exact ⟨(hfound i hi).1, hres⟩
  · rintro ⟨hx, hres⟩
    have hm := candidate_of_resolve? hres
    exact ⟨⟨x.id, h.mem_candidates hnames hx hm, h.access_id hx⟩,
      (h.targetKind_eq hx).symm ▸ hm.leadsTo, hres⟩

/-- Counting by what elements are sent to. -/
lemma sum_length_filter {α : Type} (f : α → Option MemberId) (n : ℕ) :
    ∀ l : List α, (∀ x ∈ l, ∀ m, f x = some m → m.index < n) →
      ∑ i ∈ Finset.range n, (l.filter fun x => f x = some ⟨i⟩).length =
        (l.filter fun x => (f x).isSome).length
  | [], _ => by simp
  | x :: l, hlt => by
      have ih := sum_length_filter f n l fun y hy => hlt y (List.mem_cons_of_mem _ hy)
      rcases hx : f x with _ | m
      · simpa [hx] using ih
      · have hm := hlt x (List.mem_cons_self ..) m hx
        have hone : ∀ i, ((x :: l).filter fun x => f x = some ⟨i⟩).length =
            (if m.index = i then 1 else 0) + (l.filter fun x => f x = some ⟨i⟩).length := by
          intro i
          obtain ⟨j⟩ := m
          by_cases hij : j = i
          · simp [hx, hij, Nat.add_comm]
          · simp [hx, hij]
        simp only [hone, Finset.sum_add_distrib, ih, Finset.sum_ite_eq, Finset.mem_range, if_pos hm]
        simp [hx, Nat.add_comm]

/-- **The accesses to a member are exactly those that resolve to it**, in ascending order and none
twice.  So an access is listed for one member at most, and all lists together have as many elements
as there are accesses that resolve. -/
theorem accessesTo_eq_filter (h : Completed context a) (hnames : NamesConstructors context) :
    (∀ m, a.accessesTo m = a.accesses.toList.filter (fun x => a.resolve? x.target = some m) ∧
      (a.accessesTo m).Pairwise fun x y => x.id.index < y.id.index) ∧
    (∀ m n, ∀ x ∈ a.accessesTo m, x ∈ a.accessesTo n → m = n) ∧
    ∑ i ∈ Finset.range a.members.size, (a.accessesTo ⟨i⟩).length =
      (a.accesses.toList.filter fun x => (a.resolve? x.target).isSome).length := by
  have hconsistent := h.consistent
  have heq := fun m => hconsistent.accessesTo_eq hnames m
  refine ⟨fun m => ⟨heq m, ?_⟩, fun m n x hm hn => ?_, ?_⟩
  · rw [heq]
    exact hconsistent.pairwise_accesses.filter _
  · rw [heq, List.mem_filter, decide_eq_true_iff] at hm hn
    exact Option.some.inj (hm.2.symm.trans hn.2)
  · simp only [heq]
    refine sum_length_filter _ _ _ fun x _ m hm => ?_
    obtain ⟨c, -, hmem⟩ := (candidate_of_resolve? hm).declared
    exact (hconsistent.owner hmem).1

/-- The call of a constructor goes to the constructor of a class that has no other members. -/
lemma resolve?_of_members_eq {t : Target} {m : MemberId} (hmembers : (a.cls t.owner).members = [m])
    (hkind : t.kind = .constructor) (hm : (a.member m).codeKind? = some .constructor)
    (hparameters : (a.member m).rawParameters = t.parameters) : a.resolve? t = some m := by
  obtain ⟨above, habove⟩ := depthFirst_eq_cons (fun c => (a.cls c).rawSuperclass.toList)
    a.classes.size t.owner
  simp [resolve?, hkind, resolveConstructor?, lineage, habove, constructors, declared, hmembers,
    Member.isConstructor, hm, matchesSignature, hparameters, preferred?]

/-- A class with a constructor, which that of its subclass calls. -/
def superCallBatch : Batch :=
  ⟨[{ name := "a.A", constructors := [.constructor []] },
    { name := "a.B"
      superclass := some (.cls "a.A")
      constructors := [{ Record.CodeUnit.callingConstructor (.constructor []) "a.A" [] 3 with
        descriptor := some "()V" }] }]⟩

/-- The call is listed for the constructor of the superclass and for no other. -/
theorem accessesTo_eq_filter_superCallBatch :
    ∃ a m n x, Completed superCallBatch.context a ∧ NamesConstructors superCallBatch.context ∧
      (a.member m).isConstructor = true ∧ (a.cls (a.member m).owner).name = "a.A" ∧
      (a.cls (a.member n).owner).name = "a.B" ∧ x.origin = n ∧ x.line = 3 ∧
      x ∈ a.accessesTo m ∧ x ∉ a.accessesTo n := by
  obtain ⟨a, ha, hcompleted⟩ := exists_link superCallBatch (by decide +kernel)
  have hnames : NamesConstructors superCallBatch.context :=
    namesConstructors_of_batch (by decide +kernel)
  have hA : Registry.Denotes "a.A".toList (.object "a.A") := .className rfl
  have hB : Registry.Denotes "a.B".toList (.object "a.B") := .className rfl
  obtain ⟨c, hc, hctype, -⟩ := exists_follows (r := superCallBatch.classes[0]) ha rfl hA
  obtain ⟨d, hd, hdtype, -⟩ := exists_follows (r := superCallBatch.classes[1]) ha rfl hB
  obtain ⟨t, rfl, hcontext, hfinished⟩ := finished_of_link ha
  have hcname : (t.atlas.cls c).name = "a.A" := congrArg Descriptor.name hctype
  have hdname : (t.atlas.cls d).name = "a.B" := congrArg Descriptor.name hdtype
  obtain ⟨-, fields, units, hmembers, hfields, hunits⟩ := hfinished.cls c hc
  obtain ⟨-, fields', units', hmembers', -, hunits'⟩ := hfinished.cls d hd
  rw [hcontext, hcname] at hfields hunits
  rw [hcontext, hdname] at hunits'
  obtain ⟨m, rest, hm, hrest, rfl⟩ := List.forall₂_cons_left_iff.mp hunits
  obtain ⟨n, rest', hn, -, rfl⟩ := List.forall₂_cons_left_iff.mp hunits'
  obtain rfl := List.forall₂_nil_left_iff.mp hfields
  obtain rfl := List.forall₂_nil_left_iff.mp hrest
  have hconsistent := hcompleted.consistent
  obtain ⟨hkind, hparameters⟩ := hm.rawParameters_eq_nil rfl
  have huses : t.context.uses ⟨(t.atlas.cls d).name, constructorName, "()V"⟩ =
      [.call .constructorCall { owner := "a.A", name := constructorName, line := 3 }] := by
    rw [hcontext, hdname]
    rfl
  obtain ⟨i, ⟨kind, target, line⟩, hi, haccess, hlinked⟩ := hn.exists_access rfl huses
  have howner : target.owner = c :=
    hlinked.owner_eq hfinished.wf (lt_of_imported hc) (hctype ▸ hA)
  have hnil : target.parameters = [] := List.forall₂_nil_left_iff.mp hlinked.parameters
  have hresolve : t.atlas.resolve? target = some m :=
    resolve?_of_members_eq (howner ▸ hmembers) hlinked.targetKind hkind
      (hparameters.trans hnil.symm)
  obtain ⟨hlists, hone, -⟩ := accessesTo_eq_filter hcompleted hnames
  have hx : t.atlas.access i ∈ t.atlas.accessesTo m := by
    rw [(hlists m).1, List.mem_filter, haccess]
    exact ⟨haccess ▸ access_mem hi, decide_eq_true hresolve⟩
  have hmowner : (t.atlas.member m).owner = c := (hconsistent.owner (by simp [hmembers])).2
  have hnowner : (t.atlas.member n).owner = d := (hconsistent.owner (by simp [hmembers'])).2
  refine ⟨t.atlas, m, n, t.atlas.access i, hcompleted, hnames, ?_, hmowner ▸ hcname,
    hnowner ▸ hdname, congrArg Access.origin haccess, ?_, hx, fun hxn => ?_⟩
  · rw [Member.isConstructor, hkind]
    rfl
  · exact (congrArg Access.line haccess).trans hlinked.line
  · have hcd : c = d := by rw [← hmowner, hone m n _ hx hxn, hnowner]
    exact ne_of_type hctype hdtype (by decide) hcd

end Linker

end ClassAtlas
