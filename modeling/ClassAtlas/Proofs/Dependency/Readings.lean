import ClassAtlas.Proofs.Dependency.Targets
import ClassAtlas.Proofs.Linker.TwinMembers

/-!
# Dependencies read by name

Positions differ from run to run, so the dependencies of two runs are compared by what can be read
off them: the names of their classes, kind, line and description.

* `Reading`, `Atlas.readingsOf` — a dependency in these terms, and those of a class.
* `Dependency.exists_mem_set_iff` — of the dependencies that count as one, the first is kept.
* `Agrees` — for every key, the first dependency with it is read alike in two runs.
* `Alike.readingsOf_eq` — **two runs over the same records end with the same direct dependencies**.

Dependencies that count as one may differ in kind, so it matters which one comes first.  The classes
of a type are found in an order that depends on the run, but what is said of them has one kind
(`Agrees.of_kind`); everything else stands in the order of the records.
-/

namespace ClassAtlas

/-- A dependency with its classes told by name. -/
structure Reading where
  origin : String
  target : String
  kind : DependencyKind
  line : ℕ
  description : String

/-- What is the same for dependencies that count as one. -/
def Reading.key (r : Reading) : ℕ × String × String × String :=
  (r.line, r.description, r.origin, r.target)

lemma Reading.eq_of_key {r r' : Reading} (hkey : r.key = r'.key) (hkind : r.kind = r'.kind) :
    r = r' := by
  cases r
  cases r'
  simp_all [Reading.key]

/-- Among readings of one kind, the first with a key is the only one. -/
lemma Reading.find?_eq_some_iff {rs : List Reading} {kind : DependencyKind}
    (hkind : ∀ r ∈ rs, r.kind = kind) {k : ℕ × String × String × String} {r : Reading} :
    rs.find? (fun x => x.key = k) = some r ↔ r ∈ rs ∧ r.key = k := by
  constructor
  · intro h
    exact ⟨List.mem_of_find?_eq_some h, by simpa using List.find?_some h⟩
  · rintro ⟨hr, rfl⟩
    obtain ⟨x, hfind⟩ : ∃ x, rs.find? (fun x => x.key = r.key) = some x :=
      Option.isSome_iff_exists.mp (List.find?_isSome.mpr ⟨r, hr, by simp⟩)
    have hkey : x.key = r.key := by simpa using List.find?_some hfind
    have hx := hkind x (List.mem_of_find?_eq_some hfind)
    rw [hfind, eq_of_key hkey (hx.trans (hkind r hr).symm)]

/-- What can be read off a dependency. -/
def Dependency.reading (a : Atlas) (d : Dependency) : Reading where
  origin := (a.cls d.origin).name
  target := (a.cls d.target).name
  kind := d.kind
  line := d.line
  description := d.description

/-- The direct dependencies of the class of a name, as they read. -/
def Atlas.readingsOf (a : Atlas) (name : String) : Set Reading :=
  {r | ∃ c : ClassId, c.index < a.classes.size ∧ (a.cls c).name = name ∧
    ∃ d ∈ a.dependenciesFrom c, d.reading a = r}

namespace Dependency

variable {a : Atlas} {o : ClassId} {ds : List Dependency}

/-- Dependencies of one class count as one if they read the same but for their kind. -/
lemma key_eq_iff (ha : a.Named) {d e : Dependency} (horigin : d.origin = e.origin)
    (hd : d.target.index < a.classes.size) (he : e.target.index < a.classes.size) :
    d.key = e.key ↔ (d.reading a).key = (e.reading a).key := by
  have htarget : d.target = e.target ↔ (a.cls d.target).name = (a.cls e.target).name :=
    ⟨fun h => by rw [h], ha.name_inj hd he⟩
  simp only [key, reading, Reading.key, Prod.mk.injEq, horigin, htarget, true_and]

/-- **Of the dependencies that count as one, the first is kept.** -/
theorem exists_mem_set_iff (ha : a.Named) (horigin : ∀ d ∈ ds, d.origin = o)
    (htarget : ∀ d ∈ ds, d.target.index < a.classes.size) {r : Reading} :
    (∃ d ∈ set ds, d.reading a = r) ↔
      (ds.map (reading a)).find? (fun x => x.key = r.key) = some r := by
  have hmem : ∀ d ∈ ds, d ∈ set ds ↔
      ds.find? (fun e => (e.reading a).key = (d.reading a).key) = some d := by
    intro d hd
    rw [set, List.mem_mergeSort, mem_distinctBy_iff]
    have hkey : ∀ e ∈ ds, e.key = d.key ↔ (e.reading a).key = (d.reading a).key := by
      intro e he
      have hsame := (horigin e he).trans (horigin d hd).symm
      exact key_eq_iff ha hsame (htarget e he) (htarget d hd)
    rw [List.find?_congr fun e he => decide_eq_decide.mpr (hkey e he)]
  rw [List.find?_map, Option.map_eq_some_iff]
  constructor
  · rintro ⟨d, hd, rfl⟩
    exact ⟨d, (hmem d (mem_of_mem_set hd)).mp hd, rfl⟩
  · rintro ⟨d, hd, rfl⟩
    exact ⟨d, (hmem d (List.mem_of_find?_eq_some hd)).mpr hd, rfl⟩

end Dependency

lemma Atlas.of_mem_dependOn {a : Atlas} {o target : ClassId} {kind : DependencyKind} {line : ℕ}
    {words : String} {access : Option AccessId} {x : Dependency}
    (hx : x ∈ a.dependOn o target kind line words access) : x.target = target ∧ x.kind = kind := by
  rw [dependOn] at hx
  split_ifs at hx
  · cases hx
  · rw [List.mem_singleton.mp hx]
    exact ⟨rfl, rfl⟩

lemma Atlas.of_mem_mentions {a : Atlas} {o : ClassId} {targets : List ClassId}
    {kind : DependencyKind} {line : ℕ} {subject : String} {x : Dependency}
    (hx : x ∈ targets.flatMap (a.mention o kind line subject)) :
    x.target ∈ targets ∧ x.kind = kind := by
  obtain ⟨target, hmem, hx⟩ := List.mem_flatMap.mp hx
  obtain ⟨htarget, hkind⟩ := of_mem_dependOn hx
  exact ⟨htarget ▸ hmem, hkind⟩

namespace Linker

variable {t t' : Linker} {c c' : ClassId}

/-! ## Agreement -/

/-- Dependencies of two runs lead to classes that are there, and for every key the first one that
has it is read alike. -/
structure Agrees (t t' : Linker) (ds ds' : List Dependency) : Prop where
  left : ∀ d ∈ ds, d.target.index < t.atlas.classes.size
  right : ∀ d ∈ ds', d.target.index < t'.atlas.classes.size
  first : ∀ k, (ds.map (·.reading t.atlas)).find? (fun r => r.key = k) =
    (ds'.map (·.reading t'.atlas)).find? fun r => r.key = k

namespace Agrees

variable {ds ds' es es' : List Dependency}

lemma nil : Agrees t t' [] [] :=
  ⟨by simp, by simp, fun _ => rfl⟩

lemma append (h : Agrees t t' ds ds') (h' : Agrees t t' es es') :
    Agrees t t' (ds ++ es) (ds' ++ es') where
  left := List.forall_mem_append.mpr ⟨h.left, h'.left⟩
  right := List.forall_mem_append.mpr ⟨h.right, h'.right⟩
  first k := by
    simp only [List.map_append, List.find?_append, h.first, h'.first]

lemma flatMap {α β : Type} {R : α → β → Prop} {xs : List α} {ys : List β}
    {f : α → List Dependency} {g : β → List Dependency} (h : List.Forall₂ R xs ys)
    (hfg : ∀ x y, R x y → Agrees t t' (f x) (g y)) :
    Agrees t t' (xs.flatMap f) (ys.flatMap g) := by
  induction h with
  | nil => exact nil
  | cons hxy _ ih =>
      rw [List.flatMap_cons, List.flatMap_cons]
      exact (hfg _ _ hxy).append ih

/-- If all dependencies have the same kind, only their readings matter and not the order. -/
lemma of_kind (kind : DependencyKind) (hleft : ∀ d ∈ ds, d.target.index < t.atlas.classes.size)
    (hright : ∀ d ∈ ds', d.target.index < t'.atlas.classes.size)
    (hkind : ∀ d ∈ ds, d.kind = kind) (hkind' : ∀ d ∈ ds', d.kind = kind)
    (hmem : ∀ r, r ∈ ds.map (·.reading t.atlas) ↔ r ∈ ds'.map (·.reading t'.atlas)) :
    Agrees t t' ds ds' := by
  refine ⟨hleft, hright, fun k => Option.ext fun r => ?_⟩
  rw [Reading.find?_eq_some_iff (List.forall_mem_map.mpr hkind),
    Reading.find?_eq_some_iff (List.forall_mem_map.mpr hkind'), hmem]

end Agrees

/-! ## Saying the same of twins -/

namespace Alike

variable (h : Alike t t') (hc : TwinNode t t' c c')

include h hc

/-- What is said of twins reads the same. -/
lemma map_reading_dependOn {d d' : ClassId} (hd : TwinClass t t' d d') (kind : DependencyKind)
    (line : ℕ) (words : String) (access access' : Option AccessId) :
    (t'.atlas.dependOn c' d' kind line words access').map (·.reading t'.atlas) =
      (t.atlas.dependOn c d kind line words access).map (·.reading t.atlas) := by
  have hself : d' = c' ↔ d = c := by
    constructor
    · rintro rfl
      exact hd.left_unique h.left.wf hc.toTwinClass
    · rintro rfl
      exact hd.right_unique h.right.wf hc.toTwinClass
  rw [Atlas.dependOn, Atlas.dependOn, hd.isPrimitive]
  by_cases hnone : d = c ∨ (t.atlas.cls d).isPrimitive = true
  · rw [if_pos hnone, if_pos (by rwa [hself])]
    rfl
  · rw [if_neg hnone, if_neg (by rwa [hself])]
    simp only [List.map_cons, List.map_nil, Dependency.reading, Atlas.location, hc.sourceFileName,
      hc.name, hd.name]

/-- The same is said of twins. -/
lemma agrees_dependOn {d d' : ClassId} (hd : TwinClass t t' d d') (kind : DependencyKind)
    (line : ℕ) (words : String) (access access' : Option AccessId) :
    Agrees t t' (t.atlas.dependOn c d kind line words access)
      (t'.atlas.dependOn c' d' kind line words access') := by
  refine ⟨?_, ?_, fun k => by rw [h.map_reading_dependOn hc hd kind line words access access']⟩
  · intro x hx
    rw [(Atlas.of_mem_dependOn hx).1]
    exact hd.taken
  · intro x hx
    rw [(Atlas.of_mem_dependOn hx).1]
    exact hd.taken'

lemma map_reading_mention {d d' : ClassId} (hd : TwinClass t t' d d') (kind : DependencyKind)
    (line : ℕ) (subject : String) :
    (t'.atlas.mention c' kind line subject d').map (·.reading t'.atlas) =
      (t.atlas.mention c kind line subject d).map (·.reading t.atlas) := by
  rw [Atlas.mention, Atlas.mention, hd.name]
  exact h.map_reading_dependOn hc hd kind line _ none none

lemma agrees_mention {d d' : ClassId} (hd : TwinClass t t' d d') (kind : DependencyKind) (line : ℕ)
    (subject : String) :
    Agrees t t' (t.atlas.mention c kind line subject d)
      (t'.atlas.mention c' kind line subject d') := by
  rw [Atlas.mention, Atlas.mention, hd.name]
  exact h.agrees_dependOn hc hd kind line _ none none

/-- Twins are mentioned in order. -/
lemma agrees_mentions {ds ds' : List ClassId} (hds : List.Forall₂ (TwinClass t t') ds ds')
    (kind : DependencyKind) (line : ℕ) (subject : String) :
    Agrees t t' (ds.flatMap (t.atlas.mention c kind line subject))
      (ds'.flatMap (t'.atlas.mention c' kind line subject)) :=
  .flatMap hds fun _ _ hd => h.agrees_mention hc hd kind line subject

/-- Twins are mentioned in any order. -/
lemma agrees_mentions_of_mem {ds ds' : List ClassId}
    (hds : ∀ d ∈ ds, ∃ d' ∈ ds', TwinClass t t' d d')
    (hds' : ∀ d' ∈ ds', ∃ d ∈ ds, TwinClass t t' d d')
    (kind : DependencyKind) (line : ℕ) (subject : String) :
    Agrees t t' (ds.flatMap (t.atlas.mention c kind line subject))
      (ds'.flatMap (t'.atlas.mention c' kind line subject)) := by
  refine Agrees.of_kind kind ?_ ?_ ?_ ?_ fun r => ?_
  · intro x hx
    obtain ⟨d', -, htwin⟩ := hds _ (Atlas.of_mem_mentions hx).1
    exact htwin.taken
  · intro x hx
    obtain ⟨d, -, htwin⟩ := hds' _ (Atlas.of_mem_mentions hx).1
    exact htwin.taken'
  · exact fun x hx => (Atlas.of_mem_mentions hx).2
  · exact fun x hx => (Atlas.of_mem_mentions hx).2
  · rw [List.map_flatMap, List.map_flatMap, List.mem_flatMap, List.mem_flatMap]
    constructor
    · rintro ⟨d, hd, hr⟩
      obtain ⟨d', hd', htwin⟩ := hds d hd
      exact ⟨d', hd', by rwa [h.map_reading_mention hc htwin]⟩
    · rintro ⟨d', hd', hr⟩
      obtain ⟨d, hd, htwin⟩ := hds' d' hd'
      exact ⟨d, hd, by rwa [h.map_reading_mention hc htwin] at hr⟩

/-! ## Position by position -/

lemma agrees_argumentDependencies {type type' : TypeRef} (htype : TwinType t t' type type')
    (line : ℕ) (subject role : String) :
    Agrees t t' (t.atlas.argumentDependencies c line subject role type)
      (t'.atlas.argumentDependencies c' line subject role type') := by
  rw [Atlas.argumentDependencies, Atlas.argumentDependencies, h.typeName htype]
  refine h.agrees_mentions_of_mem hc ?_ ?_ _ _ _
  · intro d hd
    obtain ⟨d', htwin, hd'⟩ := h.hasArgument (Atlas.mem_argumentClasses.mp hd) htype
    exact ⟨d', Atlas.mem_argumentClasses.mpr hd', htwin⟩
  · intro d' hd'
    obtain ⟨d, htwin, hd⟩ := h.symm.hasArgument (Atlas.mem_argumentClasses.mp hd') htype.symm
    exact ⟨d, Atlas.mem_argumentClasses.mpr hd, htwin.symm⟩

lemma agrees_boundDependencies {vars vars' : List VarId}
    (hvars : List.Forall₂ (TwinVar t t') vars vars') (line : ℕ) (subject : String) :
    Agrees t t' (t.atlas.boundDependencies c line subject vars)
      (t'.atlas.boundDependencies c' line subject vars') := by
  refine .flatMap hvars fun v v' hv => ?_
  refine .flatMap hv.forall₂_bounds fun type type' htype => ?_
  rw [hv.name]
  refine h.agrees_mentions_of_mem hc ?_ ?_ _ _ _
  · intro d hd
    obtain ⟨d', htwin, hd'⟩ := h.involves (Atlas.mem_involvedClasses.mp hd) htype
    exact ⟨d', Atlas.mem_involvedClasses.mpr hd', htwin⟩
  · intro d' hd'
    obtain ⟨d, htwin, hd⟩ := h.symm.involves (Atlas.mem_involvedClasses.mp hd') htype.symm
    exact ⟨d, Atlas.mem_involvedClasses.mpr hd, htwin.symm⟩

lemma agrees_annotDependencies {xs xs' : List Annot} (hxs : List.Forall₂ (TwinAnnot t t') xs xs')
    (line : ℕ) (subject : String) :
    Agrees t t' (t.atlas.annotDependencies c line subject xs)
      (t'.atlas.annotDependencies c' line subject xs') := by
  refine .flatMap hxs fun x x' hx => ?_
  exact (h.agrees_mention hc hx.type _ _ _).append (h.agrees_mentions hc hx.memberTypes _ _ _)

lemma agrees_inheritanceDependencies :
    Agrees t t' (t.atlas.inheritanceDependencies c) (t'.atlas.inheritanceDependencies c') := by
  simp only [Atlas.inheritanceDependencies, ClassNode.description, hc.kind, hc.name]
  refine .append (.flatMap hc.superclass.forall₂_toList fun type type' htype => ?_)
    (.flatMap hc.interfaces fun type type' htype => ?_)
  · exact (h.agrees_mention hc htype.raw _ _ _).append
      (h.agrees_argumentDependencies hc htype.type _ _ _)
  · exact (h.agrees_mention hc htype.raw _ _ _).append
      (h.agrees_argumentDependencies hc htype.type _ _ _)

lemma agrees_fieldDependencies {m m' : Member} (hm : TwinMember t t' m m')
    {type type' : TypeRef} {raw raw' : ClassId} (htype : TwinErased t t' type type' raw raw') :
    Agrees t t' (t.atlas.fieldDependencies c m type raw)
      (t'.atlas.fieldDependencies c' m' type' raw') := by
  rw [Atlas.fieldDependencies, Atlas.fieldDependencies, hm.description]
  exact ((h.agrees_mention hc htype.raw _ _ _).append
    (h.agrees_argumentDependencies hc htype.type _ _ _)).append
      (h.agrees_annotDependencies hc hm.annotations _ _)

lemma agrees_parameterDependencies {p p' : Param} (hp : TwinParam t t' p p') (line : ℕ)
    (subject : String) :
    Agrees t t' (t.atlas.parameterDependencies c line subject p)
      (t'.atlas.parameterDependencies c' line subject p') := by
  rw [Atlas.parameterDependencies, Atlas.parameterDependencies, h.typeName hp.type]
  exact ((h.agrees_mention hc hp.raw _ _ _).append
    (h.agrees_argumentDependencies hc hp.type _ _ _)).append
      (h.agrees_annotDependencies hc hp.annotations _ _)

lemma agrees_returnDependencies {m m' : Member} (hm : TwinMember t t' m m')
    {unit unit' : CodeUnit} (hunit : TwinUnit t t' unit unit') :
    Agrees t t' (t.atlas.returnDependencies c m unit)
      (t'.atlas.returnDependencies c' m' unit') := by
  obtain ⟨type, raw, type', raw', htype, hraw, htype', hraw', htwin⟩ := hunit.returns
  have hmethod : m'.isMethod = m.isMethod := by
    rw [Member.isMethod, Member.isMethod, hm.body.codeKind?]
  rw [Atlas.returnDependencies, Atlas.returnDependencies, htype, hraw, htype', hraw', hmethod,
    hm.description, hunit.firstLine]
  cases m.isMethod with
  | false => exact .nil
  | true =>
      exact (h.agrees_mention hc htwin.raw _ _ _).append
        (h.agrees_argumentDependencies hc htwin.type _ _ _)

lemma agrees_accessDependencies {m m' : Member} (hm : TwinMember t t' m m') {i i' : AccessId}
    (hi : TwinUse t t' (t.atlas.access i).use (t'.atlas.access i').use) :
    Agrees t t' (t.atlas.accessDependencies c m i) (t'.atlas.accessDependencies c' m' i') := by
  have hkind : (t'.atlas.access i').kind = (t.atlas.access i).kind := hi.kind
  have hline : (t'.atlas.access i').line = (t.atlas.access i).line := hi.line
  have hfullName : (t'.atlas.access i').target.fullName = (t.atlas.access i).target.fullName :=
    hi.fullName
  simp only [Atlas.accessDependencies, Target.description, hm.description, hkind, hline, hfullName]
  exact h.agrees_dependOn hc hi.owner _ _ _ _ _

lemma agrees_codeUnitDependencies {m m' : Member} (hm : TwinMember t t' m m')
    {unit unit' : CodeUnit} (hunit : TwinUnit t t' unit unit') :
    Agrees t t' (t.atlas.codeUnitDependencies c m unit)
      (t'.atlas.codeUnitDependencies c' m' unit') := by
  have hreturns := h.agrees_returnDependencies hc hm hunit
  simp only [Atlas.codeUnitDependencies, hm.description, hunit.firstLine]
  refine .append (.append (.append (.append (.append (.append (.append (.append ?_ ?_) ?_) ?_) ?_)
    ?_) ?_) ?_) ?_
  · exact .flatMap hunit.accesses fun _ _ hi => h.agrees_accessDependencies hc hm hi
  · exact hreturns
  · exact .flatMap hunit.parameters fun _ _ hp => h.agrees_parameterDependencies hc hp _ _
  · exact h.agrees_mentions hc hunit.throws _ _ _
  · refine .flatMap hunit.catchBlocks fun b b' hb => ?_
    rw [hb.line]
    exact h.agrees_mentions hc hb.types _ _ _
  · refine .flatMap hunit.instanceofChecks fun x x' hx => ?_
    rw [hx.line]
    exact h.agrees_mention hc hx.target _ _ _
  · refine .flatMap hunit.classObjects fun x x' hx => ?_
    rw [hx.line]
    exact h.agrees_mention hc hx.target _ _ _
  · exact h.agrees_boundDependencies hc hunit.typeParameters _ _
  · exact h.agrees_annotDependencies hc hm.annotations _ _

lemma agrees_memberDependencies {m m' : MemberId}
    (hm : TwinMember t t' (t.atlas.member m) (t'.atlas.member m')) :
    Agrees t t' (t.atlas.memberDependencies c m) (t'.atlas.memberDependencies c' m') := by
  rw [Atlas.memberDependencies, Atlas.memberDependencies]
  have hbody := hm.body
  generalize (t.atlas.member m).body = body at hbody ⊢
  generalize (t'.atlas.member m').body = body' at hbody ⊢
  cases hbody with
  | field htype => exact h.agrees_fieldDependencies hc hm htype
  | code kind hunit => exact h.agrees_codeUnitDependencies hc hm hunit

/-- **Imported classes of the same type mention the same.** -/
theorem agrees_mentions_of_class : Agrees t t' (t.atlas.mentions c) (t'.atlas.mentions c') := by
  simp only [Atlas.mentions, ClassNode.description, hc.name]
  refine .append (.append (.append ?_ ?_) ?_) ?_
  · exact h.agrees_inheritanceDependencies hc
  · exact h.agrees_boundDependencies hc hc.typeParameters _ _
  · exact h.agrees_annotDependencies hc hc.annotations _ _
  · exact .flatMap hc.members fun _ _ hm => h.agrees_memberDependencies hc hm

end Alike

/-! ## Direct dependencies -/

/-- What is kept of the dependencies of a class, as it reads. -/
lemma exists_dependency_iff {a : Atlas} (ha : a.Named)
    (htarget : ∀ d ∈ a.mentions c, d.target.index < a.classes.size) {r : Reading} :
    (∃ d ∈ a.dependenciesFrom c, d.reading a = r) ↔
      ((a.mentions c).map (·.reading a)).find? (fun x => x.key = r.key) = some r :=
  Dependency.exists_mem_set_iff ha Atlas.collects_mentions_of_class.origin htarget

/-- Only imported classes have dependencies. -/
lemma Finished.imported_of_mem (h : Finished t) {d : Dependency}
    (hd : d ∈ t.atlas.dependenciesFrom c) : (t.atlas.cls c).imported = true := by
  by_contra himported
  have hstub := h.stub c (Bool.eq_false_of_not_eq_true himported)
  exact Atlas.not_mem_dependenciesFrom hstub d hd

namespace Alike

lemma readingsOf_subset (h : Alike t t') (name : String) :
    t.atlas.readingsOf name ⊆ t'.atlas.readingsOf name := by
  rintro r ⟨c, -, hname, d, hd, hr⟩
  have himported := h.left.imported_of_mem hd
  obtain ⟨c', hc⟩ := h.matched c himported
  have hagrees := h.agrees_mentions_of_class (h.twinNode hc himported)
  refine ⟨c', hc.taken', hc.name.trans hname, ?_⟩
  rw [exists_dependency_iff h.right.wf.named hagrees.right, ← hagrees.first]
  exact (exists_dependency_iff h.left.wf.named hagrees.left).mp ⟨d, hd, hr⟩

/-- **Two runs over the same records end with the same direct dependencies.** -/
theorem readingsOf_eq (h : Alike t t') (name : String) :
    t.atlas.readingsOf name = t'.atlas.readingsOf name :=
  (h.readingsOf_subset name).antisymm (h.symm.readingsOf_subset name)

end Alike

end Linker

end ClassAtlas
