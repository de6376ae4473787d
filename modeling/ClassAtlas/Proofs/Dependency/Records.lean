import ClassAtlas.Proofs.Atlas.Arrays
import ClassAtlas.Proofs.Dependency.Targets
import ClassAtlas.Proofs.Linker.Finished

/-!
# What classes with records depend on

A class depends on what its record names as supertypes and as types of fields, unless that is the
class itself or primitive.

* `exists_dependency` — a class depends on what it mentions.
* `Follows.exists_dependency` — **a class depends on the supertypes on record**.
* `Finished.exists_dependency` — **a class depends on the types of the fields on record**.
-/

namespace ClassAtlas

namespace Atlas

variable {a : Atlas} {b c : ClassId} {d : Dependency}

lemma lt_of_isPrimitive (h : (a.cls c).isPrimitive = false) : c.index < a.classes.size := by
  by_contra hlt
  rw [cls_eq_default (not_lt.mp hlt)] at h
  cases h

/-- No class depends on a primitive type. -/
lemma isPrimitive_target (hd : d ∈ a.dependenciesFrom c) :
    (a.cls d.target).isPrimitive = false :=
  (((collects_dependenciesFrom a c).target d.target).mp ⟨d, hd, rfl⟩).2.2

/-- Dependencies lead to classes of the atlas. -/
lemma target_lt (hd : d ∈ a.dependenciesFrom c) : d.target.index < a.classes.size :=
  lt_of_isPrimitive (isPrimitive_target hd)

/-- Only classes of the atlas have dependencies. -/
lemma lt_of_mem_dependenciesFrom (hd : d ∈ a.dependenciesFrom c) : c.index < a.classes.size := by
  by_contra hlt
  refine not_mem_dependenciesFrom (o := c) ?_ d hd
  rw [cls_eq_default (not_lt.mp hlt)]
  exact ⟨rfl, rfl, rfl, rfl, rfl, rfl⟩

/-- The type of its target tells where a dependency leads to. -/
lemma Named.target_eq (ha : a.Named) (hd : d ∈ a.dependenciesFrom c) (hb : b.index < a.classes.size)
    (h : (a.cls d.target).type = (a.cls b).type) : d.target = b :=
  ha.name_inj (target_lt hd) hb (congrArg Descriptor.name h)

/-- A class depends on what it mentions. -/
lemma exists_dependency {type : Descriptor} (h : a.Mentions c b) (htype : (a.cls b).type = type)
    (hne : type ≠ (a.cls c).type) (hprimitive : type.isPrimitive = false) :
    ∃ d ∈ a.dependenciesFrom c, d.origin = c ∧ (a.cls d.target).type = type := by
  have hself : b ≠ c := fun heq => hne (by rw [← htype, heq])
  have hother : (a.cls b).isPrimitive = false := by rwa [ClassNode.isPrimitive, htype]
  obtain ⟨d, hd, rfl⟩ :=
    ((collects_dependenciesFrom a c).target b).mpr ⟨h, hself, hother⟩
  exact ⟨d, hd, (collects_dependenciesFrom a c).origin d hd, htype⟩

/-- A supertype on record is read. -/
lemma Follows.exists_supertype {r : Record.Class} {sig : TypeSig} (h : a.Follows c r)
    (hsig : sig ∈ r.effectiveSuperclass.toList ++ r.interfaces) :
    ∃ ref ∈ (a.cls c).superclass.toList ++ (a.cls c).interfaces, a.Reads c sig ref := by
  rcases List.mem_append.mp hsig with hsig | hsig
  · rw [Option.mem_toList] at hsig
    have hsuperclass := h.superclass
    rw [hsig] at hsuperclass
    obtain ⟨ref, href, hread⟩ := hsuperclass.exists_right
    exact ⟨ref, List.mem_append_left _ (Option.mem_toList.mpr href), hread⟩
  · obtain ⟨ref, href, hread⟩ := h.interfaces.exists_right hsig
    exact ⟨ref, List.mem_append_right _ href, hread⟩

/-- A type that names a class erases to it, whatever arguments it has. -/
lemma Reads.type_erasure {sig : TypeSig} {ref : TypeRef} {name : String} {type : Descriptor}
    (h : a.Reads c sig ref)
    (hsig : sig = .cls name ∨ ∃ arguments, sig = .parameterized name arguments)
    (hdenotes : Registry.Denotes name.toList type) : (a.cls (a.erasure ref)).type = type := by
  obtain rfl | ⟨arguments, rfl⟩ := hsig
  · cases h with
    | cls hb => exact hb.2.unique hdenotes
  · cases h with
    | parameterized hb _ => exact hb.2.unique hdenotes

/-- **A class depends on the supertypes on record.** -/
lemma Follows.exists_dependency {r : Record.Class} {sig : TypeSig} {name : String}
    {type : Descriptor} (h : a.Follows c r) (hc : (a.cls c).type = .object r.name)
    (hmem : sig ∈ r.effectiveSuperclass.toList ++ r.interfaces)
    (hsig : sig = .cls name ∨ ∃ arguments, sig = .parameterized name arguments)
    (hdenotes : Registry.Denotes name.toList type) (hne : type ≠ .object r.name)
    (hprimitive : type.isPrimitive = false) :
    ∃ d ∈ a.dependenciesFrom c, d.origin = c ∧ (a.cls d.target).type = type := by
  obtain ⟨ref, href, hread⟩ := h.exists_supertype hmem
  exact Atlas.exists_dependency (.supertype href) (hread.type_erasure hsig hdenotes) (hc ▸ hne)
    hprimitive

end Atlas

namespace Linker

open Atlas

variable {t : Linker} {c : ClassId}

/-- **A class depends on the types of the fields on record.** -/
lemma Finished.exists_dependency {b : Batch} {rc : Record.Class} {f : Record.Field} {name : String}
    {type : Descriptor} (h : Finished t) (hcontext : t.context = b.context)
    (hrc : b.record? rc.name = some rc) (hc : (t.atlas.cls c).imported = true)
    (hctype : (t.atlas.cls c).type = .object rc.name) (hf : f ∈ rc.fields)
    (hsig : f.type = .cls name) (hdenotes : Registry.Denotes name.toList type)
    (hne : type ≠ .object rc.name) (hprimitive : type.isPrimitive = false) :
    ∃ d ∈ t.atlas.dependenciesFrom c, d.origin = c ∧ (t.atlas.cls d.target).type = type := by
  obtain ⟨-, fields, units, hmembers, hfields, -⟩ := h.cls c hc
  have hrecords : t.context.fields (t.atlas.cls c).name = rc.fields := by
    rw [ClassNode.name, hctype]
    simp [hcontext, Batch.context, Batch.ofClass, Descriptor.name, hrc]
  rw [hrecords] at hfields
  obtain ⟨m, hm, hlinked⟩ := hfields.exists_right hf
  obtain ⟨ref, raw, hbody, herases⟩ := hlinked.body
  rw [hsig] at herases
  have hlisted : m ∈ (t.atlas.cls c).members := hmembers ▸ List.mem_append_left _ hm
  exact Atlas.exists_dependency (.field hlisted hbody) (herases.classType_eq h.wf hdenotes)
    (hctype ▸ hne) hprimitive

end Linker

end ClassAtlas
