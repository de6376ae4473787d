import ClassAtlas.Atlas.Hierarchy
import ClassAtlas.Proofs.Batch.Records
import ClassAtlas.Proofs.Linker.Consistency

/-!
# What a class can stand for

Three lists speak of the classes above and below a class: `Atlas.allSubclasses` goes down through
the subclasses, `Atlas.lineage` goes up through the superclasses, and `Atlas.allInterfaces` goes up
through interfaces only, from the interfaces of the lineage.  So the superclass of an interface is
looked at by nobody, and the lists agree if there is none.

* `mem_allSubclasses` — the classes below a class are those reached through subclasses.
* `Consistent.reaches_subclasses_iff` — which are those that have the class above them.
* `mem_assignableTo_iff` — a class can stand for what is above it, if interfaces have no superclass.
* `allSubclasses_iff_assignable` — **so all four ways to ask agree**, on cyclic hierarchies too.
-/

namespace ClassAtlas

open Search

namespace Atlas

variable {a : Atlas} {c o : ClassId}

/-! ## Going up -/

/-- A class is above another one: it is reached through superclasses and interfaces. -/
def Above (a : Atlas) (o c : ClassId) : Prop :=
  Reaches (fun c => (a.cls c).rawSupertypes) o c

lemma above_of_mem_lineage (h : c ∈ a.lineage o) : a.Above o c :=
  Reaches.mono (fun _ => List.subset_append_left _ _) (reaches_of_mem_depthFirst h)

lemma above_of_mem_fieldLookupOrder (h : c ∈ a.fieldLookupOrder o) : a.Above o c :=
  Reaches.mono (fun _ => List.perm_append_comm.subset)
    (reaches_of_mem_depthFirst h)

lemma above_of_mem_allInterfaces (h : c ∈ a.allInterfaces o) : a.Above o c := by
  obtain ⟨i, hi, hreaches⟩ := reaches_of_mem_breadthFirst h
  obtain ⟨l, hl, hinterface⟩ := List.mem_flatMap.mp hi
  have hstep : a.Above o i :=
    Relation.ReflTransGen.tail (above_of_mem_lineage hl) (List.mem_append_right _ hinterface)
  exact hstep.trans (Reaches.mono (fun _ => List.subset_append_right _ _) hreaches)

/-! ## Going down -/

/-- The classes below a class, itself included, are those reached through subclasses. -/
lemma mem_allSubclasses : o ∈ c :: a.allSubclasses c ↔
    Reaches (fun c => (a.cls c).subclasses) c o := by
  have hnext : ∀ d : ClassId, (a.cls d).subclasses ≠ [] → d.index < a.classes.size :=
    fun d => lt_of_ne_default ClassNode.subclasses
  rw [← mem_depthFirst_classes hnext, List.mem_cons, allSubclasses, mem_tail_depthFirst]
  refine ⟨fun h => ?_, fun h => or_iff_not_imp_left.mpr fun hne => ⟨h, hne⟩⟩
  rcases h with rfl | h
  · exact (mem_depthFirst_classes hnext).mpr .refl
  · exact h.1

/-! ## Both superclasses and interfaces -/

lemma above_of_mem_assignableTo (h : o ∈ a.assignableTo c) : a.Above c o :=
  (List.mem_append.mp h).elim above_of_mem_lineage above_of_mem_allInterfaces

/-- No class that is named as an interface has a superclass. -/
def PlainInterfaces (a : Atlas) : Prop :=
  ∀ c, ∀ i ∈ (a.cls c).rawInterfaces, (a.cls i).rawSuperclass = none

/-- The lineage goes on to the superclass. -/
lemma mem_lineage_of_superclass (h : o ∈ a.lineage c) {p : ClassId}
    (hp : p ∈ (a.cls o).rawSuperclass.toList) : p ∈ a.lineage c := by
  have hnext : ∀ d : ClassId, (a.cls d).rawSuperclass.toList ≠ [] → d.index < a.classes.size :=
    fun d => lt_of_ne_default fun c => c.rawSuperclass.toList
  rw [lineage, mem_depthFirst_classes hnext] at h ⊢
  exact h.tail hp

lemma self_mem_lineage (a : Atlas) (c : ClassId) : c ∈ a.lineage c := by
  obtain ⟨rest, hrest⟩ := depthFirst_eq_cons (fun d => (a.cls d).rawSuperclass.toList)
    a.classes.size c
  rw [lineage, hrest]
  exact List.mem_cons_self ..

/-- The search for interfaces goes on to the interfaces of what it lists. -/
lemma closed_allInterfaces (a : Atlas) (c : ClassId) :
    (∀ i ∈ (a.lineage c).flatMap fun d => (a.cls d).rawInterfaces, i ∉ [c] →
      i ∈ a.allInterfaces c) ∧
    ClosedUpTo (fun d => (a.cls d).rawInterfaces) [c] (a.allInterfaces c) :=
  closed_breadthFirst (fun _ hd => mem_classIds (lt_of_ne_default ClassNode.rawInterfaces hd))
    a.card_classIds_le

/-- What is listed as an interface is named as one. -/
lemma exists_of_mem_allInterfaces (h : o ∈ a.allInterfaces c) :
    ∃ d, o ∈ (a.cls d).rawInterfaces := by
  obtain ⟨i, hi, hreaches⟩ := reaches_of_mem_breadthFirst h
  obtain ⟨l, -, hl⟩ := List.mem_flatMap.mp hi
  rcases hreaches.cases_tail with rfl | ⟨d, -, hd⟩
  · exact ⟨l, hl⟩
  · exact ⟨d, hd⟩

/-- What a class can stand for, it can stand for with the supertypes. -/
lemma PlainInterfaces.mem_assignableTo (ha : a.PlainInterfaces) (h : o ∈ a.assignableTo c)
    {p : ClassId} (hp : p ∈ (a.cls o).rawSupertypes) : p ∈ a.assignableTo c := by
  by_cases hself : p = c
  · rw [hself]
    exact List.mem_append_left _ (a.self_mem_lineage c)
  have hexcluded : p ∉ [c] := by simpa using hself
  obtain ⟨hstart, hclosed⟩ := a.closed_allInterfaces c
  rcases List.mem_append.mp h with hlineage | hinterface
  · rcases List.mem_append.mp hp with hp | hp
    · exact List.mem_append_left _ (mem_lineage_of_superclass hlineage hp)
    · exact List.mem_append_right _
        (hstart p (List.mem_flatMap.mpr ⟨o, hlineage, hp⟩) hexcluded)
  · obtain ⟨d, hd⟩ := exists_of_mem_allInterfaces hinterface
    rw [ClassNode.rawSupertypes, ha d o hd] at hp
    exact List.mem_append_right _ (hclosed o hinterface p (by simpa using hp) hexcluded)

/-- A class can stand for exactly the classes above it. -/
theorem PlainInterfaces.mem_assignableTo_iff (ha : a.PlainInterfaces) :
    o ∈ a.assignableTo c ↔ a.Above c o := by
  refine ⟨above_of_mem_assignableTo, fun h => ?_⟩
  induction h with
  | refl => exact List.mem_append_left _ (a.self_mem_lineage c)
  | tail _ hstep ih => exact ha.mem_assignableTo ih hstep

/-! ## Asking by name -/

/-- Asking for a class by name comes to the same as asking for the class. -/
lemma isAssignableFrom_iff (ha : a.Named) (hc : c.index < a.classes.size) :
    a.isAssignableFrom o (a.cls c).name = true ↔ o ∈ a.assignableTo c := by
  have hget : a.get? (a.cls c).name = some c := by
    rw [get?, ha.own c hc]
    rfl
  rw [isAssignableFrom, hget, Option.any_some, List.contains_iff_mem]

end Atlas

namespace Linker

open Atlas

variable {context : ImportContext} {a : Atlas} {c o s : ClassId}

/-- What goes up one way goes down the other. -/
lemma Consistent.reaches_subclasses (h : Consistent context a) (habove : a.Above o c) :
    Reaches (fun c => (a.cls c).subclasses) c o := by
  induction habove with
  | refl => exact .refl
  | @tail b c _ hstep ih =>
      by_cases hne : c = b
      · rwa [hne]
      · exact .head (h.below hstep hne) ih

/-- The classes reached through subclasses are those that have the class above them. -/
lemma Consistent.reaches_subclasses_iff (h : Consistent context a) :
    Reaches (fun c => (a.cls c).subclasses) c o ↔ a.Above o c := by
  refine ⟨fun hreaches => ?_, h.reaches_subclasses⟩
  induction hreaches with
  | refl => exact .refl
  | tail _ hstep ih => exact .head (h.above hstep) ih

/-- What is above a class of the atlas is a class of the atlas. -/
lemma Consistent.above_lt (h : Consistent context a) (hc : c.index < a.classes.size)
    (habove : a.Above c o) : o.index < a.classes.size := by
  induction habove with
  | refl => exact hc
  | @tail d o _ hstep ih =>
      by_cases hne : o = d
      · rwa [hne]
      · exact lt_of_ne_default ClassNode.subclasses (List.ne_nil_of_mem (h.below hstep hne))

lemma Consistent.isAssignableTo_iff (h : Consistent context a) (ha : a.Named)
    (hc : c.index < a.classes.size) (hs : s.index < a.classes.size) :
    a.isAssignableTo c (a.cls s).name = true ↔ s ∈ a.assignableTo c := by
  simp only [isAssignableTo, List.any_eq_true, beq_iff_eq]
  constructor
  · rintro ⟨d, hd, hname⟩
    have hlt := h.above_lt hc (above_of_mem_assignableTo hd)
    rwa [← ha.name_inj hlt hs hname]
  · intro hmem
    exact ⟨s, hmem, rfl⟩

/-- **The classes below a class are those that reach it through superclasses and interfaces**, each
listed once, and the class itself is not among them.  If no class that is named as an interface has
a superclass, they are also those that can stand for the class, whichever way one asks. -/
theorem allSubclasses_iff_assignable (h : Completed context a) (s : ClassId) :
    (a.allSubclasses s).Nodup ∧
    (∀ c, c ∈ a.allSubclasses s ↔
      c ≠ s ∧ Relation.TransGen (fun x p => p ∈ (a.cls x).rawSupertypes) c s) ∧
    (a.PlainInterfaces → s.index < a.classes.size →
      ∀ c : ClassId, c.index < a.classes.size → c ≠ s →
        (c ∈ a.allSubclasses s ↔ s ∈ a.assignableTo c) ∧
        (s ∈ a.assignableTo c ↔ a.isAssignableTo c (a.cls s).name = true) ∧
        (a.isAssignableTo c (a.cls s).name = true ↔
          a.isAssignableFrom s (a.cls c).name = true)) := by
  have hconsistent := h.consistent
  obtain ⟨t, hvalid, rfl⟩ := h.exists_valid
  have hnamed := hvalid.wf.named
  have hbelow : ∀ c, c ∈ t.atlas.allSubclasses s ↔ c ≠ s ∧ t.atlas.Above c s := by
    intro c
    rw [← hconsistent.reaches_subclasses_iff, ← mem_allSubclasses, List.mem_cons]
    have hself : c ∈ t.atlas.allSubclasses s → c ≠ s := fun hc => (mem_tail_depthFirst.mp hc).2
    tauto
  refine ⟨nodup_depthFirst.sublist (List.tail_sublist _), fun c => ?_, fun hplain hs c hc hne => ?_⟩
  · rw [hbelow, Above, Reaches, Relation.reflTransGen_iff_eq_or_transGen]
    tauto
  · rw [hbelow, hconsistent.isAssignableTo_iff hnamed hc hs, isAssignableFrom_iff hnamed hc,
      PlainInterfaces.mem_assignableTo_iff hplain]
    simp [hne]

/-- A record that is spelled like its class has an imported class that follows it. -/
lemma exists_follows {b : Batch} {options : ImportOptions} {files : Files} {r : Record.Class}
    (h : Atlas.link b.context options files = .ok a) (hr : b.record? r.name = some r)
    (hdenotes : Registry.Denotes r.name.toList (.object r.name)) :
    ∃ c, (a.cls c).imported = true ∧ (a.cls c).type = .object r.name ∧ a.Follows c r := by
  obtain ⟨c, hc, htype⟩ := (recorded_of_link h).present r.header
    (List.mem_map_of_mem (List.mem_of_find?_eq_some hr))
  have htype := htype.unique hdenotes
  obtain ⟨s, t, u, v, hstart, hlinked, rfl⟩ := linked_of_link h
  obtain ⟨hv, hcontext, hcompleted⟩ := hlinked.classCompleted (start_eq_ok hstart) hc
  refine ⟨c, hc, htype, hcompleted.follows hv hcontext ?_⟩
  rw [ClassNode.name, htype]
  exact hr

/-- The classes that the interfaces of a record name. -/
lemma rawInterfaces_of_forall₂ {r : Record.Class} (names : List String) {is : List ClassId}
    (h : a.Follows c r) (ha : a.Named)
    (hnames : List.Forall₂ (fun name i => i.index < a.classes.size ∧
      Registry.Denotes name.toList (a.cls i).type) names is)
    (hr : r.interfaces = names.map .cls) : (a.cls c).rawInterfaces = is := by
  have hinterfaces := h.interfaces
  rw [hr] at hinterfaces
  clear hr
  rw [ClassNode.rawInterfaces]
  generalize (a.cls c).interfaces = types at hinterfaces
  induction hnames generalizing types with
  | nil => rw [List.forall₂_nil_left_iff.mp hinterfaces]; rfl
  | @cons name i _ _ hi _ ih =>
      obtain ⟨type, types, hread, hrest, rfl⟩ := List.forall₂_cons_left_iff.mp hinterfaces
      cases hread with
      | @cls _ id hid =>
          have hsame : id = i :=
            ha.name_inj hid.1 hi.1 (congrArg Descriptor.name (hid.2.unique hi.2))
          simpa [hsame, TypeRef.rawClass?] using ih types hrest

/-- The class that the only interface of a record names. -/
lemma rawInterfaces_of_follows {r : Record.Class} {i : ClassId} {name : String}
    (h : a.Follows c r) (ha : a.Named) (hi : i.index < a.classes.size)
    (hname : Registry.Denotes name.toList (a.cls i).type) (hr : r.interfaces = [.cls name]) :
    (a.cls c).rawInterfaces = [i] :=
  rawInterfaces_of_forall₂ [name] h ha (.cons ⟨hi, hname⟩ .nil) hr

/-- A class that implements one of two interfaces, which extend each other. -/
def mutualInterfaces : Batch :=
  ⟨[{ name := "a.C", interfaces := [.cls "a.I"] },
    { name := "a.I", kind := .interface, interfaces := [.cls "a.J"] },
    { name := "a.J", kind := .interface, interfaces := [.cls "a.I"] }]⟩

/-- The class is below the interface that it does not name, and can stand for it. -/
theorem allSubclasses_iff_assignable_mutualInterfaces :
    ∃ a c j, Completed mutualInterfaces.context a ∧ a.PlainInterfaces ∧
      j.index < a.classes.size ∧ c.index < a.classes.size ∧ c ≠ j ∧
      c ∈ a.allSubclasses j ∧ j ∈ a.assignableTo c ∧
      a.isAssignableTo c (a.cls j).name = true ∧ a.isAssignableFrom j (a.cls c).name = true := by
  obtain ⟨a, ha, hcompleted⟩ := exists_link mutualInterfaces (by decide +kernel)
  have hC : Registry.Denotes "a.C".toList (.object "a.C") := .className rfl
  have hI : Registry.Denotes "a.I".toList (.object "a.I") := .className rfl
  have hJ : Registry.Denotes "a.J".toList (.object "a.J") := .className rfl
  obtain ⟨c, hc, hctype, hcfollows⟩ := exists_follows
    (r := { name := "a.C", interfaces := [.cls "a.I"] }) ha rfl hC
  obtain ⟨i, hi, hitype, hifollows⟩ := exists_follows
    (r := { name := "a.I", kind := .interface, interfaces := [.cls "a.J"] }) ha rfl hI
  obtain ⟨j, hj, hjtype, hjfollows⟩ := exists_follows
    (r := { name := "a.J", kind := .interface, interfaces := [.cls "a.I"] }) ha rfl hJ
  obtain ⟨t, hvalid, rfl⟩ := hcompleted.exists_valid
  have hnamed := hvalid.wf.named
  have hlt := fun {x : ClassId} (hx : (t.atlas.cls x).imported = true) => lt_of_imported hx
  have hcraw := rawInterfaces_of_follows hcfollows hnamed (hlt hi) (hitype ▸ hI) rfl
  have hiraw := rawInterfaces_of_follows hifollows hnamed (hlt hj) (hjtype ▸ hJ) rfl
  have hjraw := rawInterfaces_of_follows hjfollows hnamed (hlt hi) (hitype ▸ hI) rfl
  have hisuper : (t.atlas.cls i).rawSuperclass = none := by
    rw [ClassNode.rawSuperclass, hifollows.superclass.eq_none]
    rfl
  have hjsuper : (t.atlas.cls j).rawSuperclass = none := by
    rw [ClassNode.rawSuperclass, hjfollows.superclass.eq_none]
    rfl
  have hsame : ∀ {x y : ClassId}, (t.atlas.cls x).imported = true →
      (t.atlas.cls y).imported = true → (t.atlas.cls x).type = (t.atlas.cls y).type → x = y :=
    fun hx hy htype => hnamed.name_inj (hlt hx) (hlt hy) (congrArg Descriptor.name htype)
  have hplain : t.atlas.PlainInterfaces := by
    intro x k hk
    rcases hx : (t.atlas.cls x).imported
    · have hstub := (recorded_of_link ha).stub x hx
      rw [ClassNode.rawInterfaces, hstub.interfaces] at hk
      cases hk
    · obtain ⟨header, hheader, -⟩ := (recorded_of_link ha).headed x hx
      obtain ⟨r, rfl, hr⟩ := hheader.of_map
      have hmem := hr.mem
      have hdenotes := hr.holds
      simp only [mutualInterfaces, List.mem_cons, List.not_mem_nil, or_false] at hmem
      rcases hmem with rfl | rfl | rfl
      · rw [hsame hx hc ((hdenotes.unique hC).trans hctype.symm), hcraw] at hk
        rwa [List.mem_singleton.mp hk]
      · rw [hsame hx hi ((hdenotes.unique hI).trans hitype.symm), hiraw] at hk
        rwa [List.mem_singleton.mp hk]
      · rw [hsame hx hj ((hdenotes.unique hJ).trans hjtype.symm), hjraw] at hk
        rwa [List.mem_singleton.mp hk]
  have hne : c ≠ j := ne_of_type hctype hjtype (by decide)
  obtain ⟨-, hbelow, hasks⟩ := allSubclasses_iff_assignable hcompleted j
  obtain ⟨hassignable, hto, hfrom⟩ := hasks hplain (hlt hj) c (hlt hc) hne
  have hmem : c ∈ t.atlas.allSubclasses j := by
    refine (hbelow c).mpr ⟨hne, .tail (.single (b := i) ?_) ?_⟩ <;>
      rw [ClassNode.rawSupertypes]
    · simp [hcraw]
    · simp [hiraw]
  have hstands := hassignable.mp hmem
  exact ⟨t.atlas, c, j, hcompleted, hplain, hlt hj, hlt hc, hne, hmem, hstands, hto.mp hstands,
    hfrom.mp (hto.mp hstands)⟩

end Linker

end ClassAtlas
