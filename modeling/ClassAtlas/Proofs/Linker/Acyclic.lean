import ClassAtlas.Proofs.Linker.Assignability

/-!
# Hierarchies without cycles

Records can make a class its own superclass, and nothing keeps linking from doing so.  Where no
class is above itself, going up comes to an end, and the number of classes above a class says how
far it is from there.

* `Atlas.mem_fieldLookupOrder` — the order of field lookup lists the classes above a class.
* `Atlas.Acyclic` — no class is above itself.
* `Atlas.Acyclic.length_lt` — **fewer classes are above a class than above one below it**.
* `acyclic_of_link` — records that name classes of lower levels only have no cycles.
-/

namespace ClassAtlas

open Search

namespace Atlas

variable {a : Atlas} {c d p : ClassId}

/-! ## The order of field lookup -/

/-- Where the lookup of a field goes on: first to the interfaces, then to the superclass. -/
def fieldSupertypes (a : Atlas) (c : ClassId) : List ClassId :=
  (a.cls c).rawInterfaces ++ (a.cls c).rawSuperclass.toList

lemma mem_fieldSupertypes : p ∈ a.fieldSupertypes c ↔ p ∈ (a.cls c).rawSupertypes :=
  List.perm_append_comm.mem_iff

lemma reaches_fieldSupertypes : Reaches a.fieldSupertypes c d ↔ a.Above c d :=
  ⟨Reaches.mono fun _ _ => mem_fieldSupertypes.mp, Reaches.mono fun _ _ => mem_fieldSupertypes.mpr⟩

lemma lt_of_fieldSupertypes (h : a.fieldSupertypes c ≠ []) : c.index < a.classes.size :=
  lt_of_ne_default (fun c => c.rawInterfaces ++ c.rawSuperclass.toList) h

/-- The order of field lookup lists the classes above a class. -/
lemma mem_fieldLookupOrder : d ∈ a.fieldLookupOrder c ↔ a.Above c d :=
  (mem_depthFirst_classes fun _ => lt_of_fieldSupertypes).trans reaches_fieldSupertypes

/-! ## No cycles -/

/-- No way up through superclasses and interfaces leads back to a class. -/
def Acyclic (a : Atlas) : Prop :=
  ∀ c, ¬ Relation.TransGen (fun x p => p ∈ (a.cls x).rawSupertypes) c c

lemma Acyclic.not_above (h : a.Acyclic) (hp : p ∈ (a.cls c).rawSupertypes) : ¬ a.Above p c :=
  fun habove => h c (Relation.TransGen.head' hp habove)

/-- **Fewer classes are above a class than above one below it**: all of them are above the lower
one, and the lower one is not among them. -/
theorem Acyclic.length_lt (h : a.Acyclic)
    (hlt : Relation.TransGen (fun x p => p ∈ (a.cls x).rawSupertypes) c d) :
    (a.fieldLookupOrder d).length < (a.fieldLookupOrder c).length := by
  have hnot : c ∉ a.fieldLookupOrder d := fun hc =>
    h c (hlt.trans_left (mem_fieldLookupOrder.mp hc))
  have hnodup : (c :: a.fieldLookupOrder d).Nodup := List.nodup_cons.mpr ⟨hnot, nodup_depthFirst⟩
  have hsub : c :: a.fieldLookupOrder d ⊆ a.fieldLookupOrder c := by
    refine List.cons_subset.mpr ⟨mem_fieldLookupOrder.mpr .refl, fun x hx => ?_⟩
    exact mem_fieldLookupOrder.mpr (hlt.to_reflTransGen.trans (mem_fieldLookupOrder.mp hx))
  exact (hnodup.subperm hsub).length_le

/-- Levels that go down on every step up leave no room for a cycle. -/
lemma acyclic_of_level (level : ClassId → ℕ)
    (h : ∀ c, ∀ p ∈ (a.cls c).rawSupertypes, level p < level c) : a.Acyclic := by
  have hlt : ∀ {c d}, Relation.TransGen (fun x p => p ∈ (a.cls x).rawSupertypes) c d →
      level d < level c := by
    intro c d hcd
    induction hcd with
    | single hstep => exact h _ _ hstep
    | tail _ hstep ih => exact (h _ _ hstep).trans ih
  exact fun c hc => (hlt hc).false

end Atlas

/-! ## Records without cycles -/

/-- Whether a signature is the name of a class of a level below `n`, spelled like the class. -/
def TypeSig.descends (level : String → ℕ) (n : ℕ) : TypeSig → Bool
  | .cls name =>
    match Registry.spell (Text.trim name.toList) with
    | .className spelled => String.ofList spelled == name && level name < n
    | _ => false
  | _ => false

/-- The supertypes that a record names. -/
def Record.Class.supertypes (r : Record.Class) : List TypeSig :=
  r.effectiveSuperclass.toList ++ r.interfaces

namespace Atlas

variable {a : Atlas} {c p : ClassId}

/-- What is read from the name of a class of lower level is of lower level. -/
lemma Reads.level_lt {sig : TypeSig} {type : TypeRef} {level : String → ℕ} {n : ℕ}
    (h : a.Reads c sig type) (hsig : sig.descends level n = true) (hp : type.rawClass? = some p) :
    level (a.cls p).name < n := by
  cases h with
  | @cls name id hdenotes =>
      obtain rfl := Option.some.inj hp
      rw [TypeSig.descends] at hsig
      split at hsig
      next spelled hspell =>
        rw [Bool.and_eq_true, beq_iff_eq, decide_eq_true_iff] at hsig
        have hname := congrArg Descriptor.name (hdenotes.2.unique (.className hspell))
        rw [ClassNode.name, hname, Descriptor.name, hsig.1]
        exact hsig.2
      next => cases hsig
  | _ => cases hsig

/-- The supertypes of a class are read from those that the record names. -/
lemma Follows.exists_reads {r : Record.Class} (h : a.Follows c r)
    (hp : p ∈ (a.cls c).rawSupertypes) :
    ∃ sig ∈ r.supertypes, ∃ type, a.Reads c sig type ∧ type.rawClass? = some p := by
  rcases List.mem_append.mp hp with hp | hp
  · obtain ⟨type, htype, hraw⟩ := Option.bind_eq_some_iff.mp (Option.mem_toList.mp hp)
    have hsuperclass := h.superclass
    rw [htype] at hsuperclass
    rcases hsig : r.effectiveSuperclass with _ | sig <;> rw [hsig] at hsuperclass <;>
      cases hsuperclass
    next hreads => exact ⟨sig, List.mem_append_left _ (by simp [hsig]), type, hreads, hraw⟩
  · obtain ⟨type, htype, hraw⟩ := List.mem_filterMap.mp hp
    obtain ⟨sig, hsig, hreads⟩ := h.interfaces.exists_left htype
    exact ⟨sig, List.mem_append_right _ hsig, type, hreads, hraw⟩

end Atlas

namespace Linker

open Atlas

variable {b : Batch} {options : ImportOptions} {files : Files} {a : Atlas} {c p : ClassId}

/-- A class that names a superclass or an interface follows a record. -/
lemma exists_follows_of_supertype (h : Atlas.link b.context options files = .ok a)
    (hp : p ∈ (a.cls c).rawSupertypes) :
    ∃ r ∈ b.classes, r.name = (a.cls c).name ∧ a.Follows c r := by
  have hnot : ¬ (a.cls c).Stub := fun hstub => by
    rw [ClassNode.rawSupertypes, ClassNode.rawSuperclass, ClassNode.rawInterfaces,
      hstub.superclass, hstub.interfaces] at hp
    cases hp
  have hc : (a.cls c).imported = true := by
    by_contra himported
    exact hnot ((recorded_of_link h).stub c (by simpa using himported))
  obtain ⟨s, t, u, v, hstart, hlinked, rfl⟩ := linked_of_link h
  obtain ⟨hv, hcontext, hcompleted⟩ := hlinked.classCompleted (start_eq_ok hstart) hc
  rcases hr : b.record? (v.atlas.cls c).name with _ | r
  · exact absurd (hcompleted.stub hcontext hr) hnot
  · obtain ⟨hname, -⟩ := Batch.record?_eq_some.mp hr
    exact ⟨r, List.mem_of_find?_eq_some hr, hname, hcompleted.follows hv hcontext hr⟩

/-- Records that name classes of lower levels only have no cycles. -/
lemma acyclic_of_link (h : Atlas.link b.context options files = .ok a) (level : String → ℕ)
    (hlevel : ∀ r ∈ b.classes, ∀ sig ∈ r.supertypes, sig.descends level (level r.name) = true) :
    a.Acyclic := by
  refine acyclic_of_level (fun c => level (a.cls c).name) fun c p hp => ?_
  obtain ⟨r, hr, hname, hfollows⟩ := exists_follows_of_supertype h hp
  obtain ⟨sig, hsig, type, hreads, hraw⟩ := hfollows.exists_reads hp
  exact hreads.level_lt (hname ▸ hlevel r hr sig hsig) hraw

end Linker

end ClassAtlas
