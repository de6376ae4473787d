import ClassAtlas.Proofs.Resolution.Targets

/-!
# Looking up by spelled parameters

A code unit can be looked up in its class with the parameters spelled out, each by its binary or by
its canonical name.  Resolving compares the classes themselves.  The two find the same member,
because no two classes have a spelling in common.

* `Atlas.Spells` — names that spell classes, each in one of the two ways.
* `Spells.unique` — **names spell one list of classes**.
* `hasParameters_iff_of_spells` — so comparing spellings is comparing classes.
* `lookup_eq_resolve?` — **a code unit is looked up the way its target is resolved**.
-/

namespace ClassAtlas

namespace Atlas

variable {a : Atlas} {m : MemberId} {t : Target} {ids ids' : List ClassId} {names : List String}

/-- The names spell the classes, each of them by its binary or by its canonical name. -/
def Spells (a : Atlas) (ids : List ClassId) (names : List String) : Prop :=
  List.Forall₂ (fun id name => (a.cls id).name = name ∨ (a.cls id).fullName = name) ids names

lemma hasParameters_iff {m : Member} :
    a.hasParameters m names = true ↔ a.Spells m.rawParameters names := by
  simp only [hasParameters, Bool.and_eq_true, beq_iff_eq, List.all_eq_true, Bool.or_eq_true, Spells,
    List.forall₂_iff_zip, Prod.forall]

/-- Either spelling of a class denotes its type. -/
lemma Named.denotes_of_spelling (ha : a.Named) {c : ClassId} {name : String}
    (hc : c.index < a.classes.size) (h : (a.cls c).name = name ∨ (a.cls c).fullName = name) :
    Registry.Denotes name.toList (a.cls c).type := by
  rcases h with rfl | rfl
  · exact Registry.denotes_name (ha.proper hc)
  · exact Registry.denotes_fullName (ha.proper hc)

/-- **Names spell one list of classes**: a name denotes one type, and no two classes have it. -/
theorem Spells.unique (ha : a.Named) (h : a.Spells ids names) (h' : a.Spells ids' names)
    (hids : ∀ c ∈ ids, c.index < a.classes.size) (hids' : ∀ c ∈ ids', c.index < a.classes.size) :
    ids = ids' := by
  induction h generalizing ids' with
  | nil => exact (List.forall₂_nil_right_iff.mp h').symm
  | cons hname _ ih =>
      obtain ⟨c', rest', hname', hrest', rfl⟩ := List.forall₂_cons_right_iff.mp h'
      rw [List.forall_mem_cons] at hids hids'
      have htype := (ha.denotes_of_spelling hids.1 hname).unique
        (ha.denotes_of_spelling hids'.1 hname')
      rw [ha.name_inj hids.1 hids'.1 (congrArg Descriptor.name htype), ih hrest' hids.2 hids'.2]

/-- Of the members that are there, those whose parameters have the names are those with the same
parameters. -/
lemma hasParameters_iff_of_spells (ha : a.Named) (hrange : a.InRange)
    (hids : ∀ c ∈ ids, c.index < a.classes.size) (hspells : a.Spells ids names)
    (hm : m.index < a.members.size) :
    a.hasParameters (a.member m) names = true ↔ (a.member m).rawParameters = ids := by
  rw [hasParameters_iff]
  constructor
  · intro h
    exact h.unique ha hspells (fun c hc => (hrange.member m hm).rawParameter_lt hc) hids
  · rintro rfl
    exact hspells

/-! ## Both ways to a member -/

section

variable (hlisted : ∀ n ∈ (a.cls t.owner).members,
  (a.hasParameters (a.member n) names = true ↔ (a.member n).rawParameters = t.parameters))
include hlisted

/-- Where a class lists a method that a target points at, its lineage is not followed. -/
lemma exists_method? (ht : a.PointsAt t m) (hm : (a.member m).codeKind? = some .method)
    (hmem : m ∈ (a.cls t.owner).members) :
    ∃ m', a.resolve? t = some m' ∧ a.method? t.owner t.name names = some m' := by
  have hcandidates : (a.declared t.owner fun n =>
      n.isMethod && n.name == t.name && a.hasParameters n names) =
        a.matchingMethods t t.owner := by
    simp only [declared, matchingMethods, methods, List.filter_filter, matchesSignature]
    refine List.filter_congr fun n hn => ?_
    rw [Bool.eq_iff_iff]
    simp only [Bool.and_eq_true, hlisted n hn, beq_iff_eq]
    tauto
  have hfound : m ∈ a.matchingMethods t t.owner :=
    (mem_matchingMethods_of_pointsAt ht hm).mpr ⟨ht.owner ▸ hmem, rfl, rfl, rfl⟩
  obtain ⟨m', hm', -⟩ := exists_least_of_mem (a := a) (a.matchingMethods t) hfound
  refine ⟨m', ?_, ?_⟩
  · rw [resolve?_eq_resolveMethod? (TargetKind.codeKind?_eq_method.mp (ht.kind.trans hm)),
      resolveMethod?, hm']
    rfl
  · rw [method?, hcandidates, ← findSome?_lineage (a.matchingMethods t) hfound, hm']

lemma exists_constructor? (ht : a.PointsAt t m)
    (hm : (a.member m).codeKind? = some .constructor) (hmem : m ∈ (a.cls t.owner).members) :
    ∃ m', a.resolve? t = some m' ∧ a.constructor? t.owner names = some m' := by
  let candidates c := (a.constructors c).filter (a.matchesSignature t)
  have hcandidates : (a.declared t.owner fun n => n.isConstructor && a.hasParameters n names) =
      candidates t.owner := by
    simp only [candidates, declared, constructors, List.filter_filter, matchesSignature]
    refine List.filter_congr fun n hn => ?_
    rw [Bool.eq_iff_iff]
    simp only [Bool.and_eq_true, hlisted n hn, beq_iff_eq]
    tauto
  have hfound : m ∈ candidates t.owner := by
    simp [candidates, constructors, declared, matchesSignature, Member.isConstructor, hmem, hm,
      ht.parameters]
  obtain ⟨m', hm', -⟩ := exists_least_of_mem (a := a) candidates hfound
  refine ⟨m', ?_, ?_⟩
  · exact (resolve?_eq_resolveConstructor?
      (TargetKind.codeKind?_eq_constructor.mp (ht.kind.trans hm))).trans hm'
  · rw [constructor?, hcandidates, ← findSome?_lineage candidates hfound, hm']

end

end Atlas

namespace Linker

open Atlas

variable {context : ImportContext} {a : Atlas} {m : MemberId} {names : List String}

/-- **A code unit is looked up the way its target is resolved**, however its parameters are spelled:
with any mixture of their binary and their canonical names, looking up in the owner gives the member
that the target of the code unit resolves to. -/
theorem lookup_eq_resolve? (h : Completed context a)
    (hm : (a.member m).isMethod = true ∨ (a.member m).isConstructor = true)
    (hnames : a.Spells (a.member m).rawParameters names) :
    ∃ t m', Target.ofMember? a m = some t ∧ a.resolve? t = some m' ∧
      ((a.member m).isMethod = true →
        a.method? (a.member m).owner (a.member m).name names = some m') ∧
      ((a.member m).isConstructor = true →
        a.constructor? (a.member m).owner names = some m') := by
  obtain ⟨s, hs, rfl⟩ := h.exists_sound
  have hrange := hs.integral.inRange
  have hlt : m.index < s.atlas.members.size := by
    refine lt_of_not_isField ?_
    rcases hm with hm | hm <;> simp [Member.isField, beq_iff_eq.mp hm]
  have hmem := hs.mem_members hlt
  obtain ⟨t, ht⟩ : ∃ t, Target.ofMember? s.atlas m = some t := by
    refine exists_ofMember? ?_
    rcases hm with hm | hm <;> simp [Member.isStaticInitializer, beq_iff_eq.mp hm]
  have hpoints := pointsAt_of_ofMember? ht
  have hlisted : ∀ n ∈ (s.atlas.cls t.owner).members,
      (s.atlas.hasParameters (s.atlas.member n) names = true ↔
        (s.atlas.member n).rawParameters = t.parameters) := by
    intro n hn
    rw [hpoints.parameters]
    refine hasParameters_iff_of_spells hs.valid.wf.named hrange (fun c hc => ?_) hnames
      (h.consistent.owner hn).1
    exact (hrange.member m hlt).rawParameter_lt hc
  rcases hm with hm | hm
  · have hkind := beq_iff_eq.mp hm
    obtain ⟨m', hresolve, hmethod⟩ :=
      exists_method? hlisted hpoints hkind (hpoints.owner ▸ hmem)
    rw [hpoints.owner, hpoints.name] at hmethod
    refine ⟨t, m', ht, hresolve, fun _ => hmethod, fun hconstructor => ?_⟩
    simp [Member.isConstructor, hkind] at hconstructor
  · have hkind := beq_iff_eq.mp hm
    obtain ⟨m', hresolve, hconstructor⟩ :=
      exists_constructor? hlisted hpoints hkind (hpoints.owner ▸ hmem)
    rw [hpoints.owner] at hconstructor
    refine ⟨t, m', ht, hresolve, fun hmethod => ?_, fun _ => hconstructor⟩
    simp [Member.isMethod, hkind] at hmethod

theorem lookup_eq_resolve?_bridgedClass :
    ∃ a m t m', Completed (Batch.context ⟨[bridgedClass]⟩) a ∧
      (a.member m).isMethod = true ∧ (a.cls (a.member m).owner).name = "a.A" ∧
      a.Spells (a.member m).rawParameters ["int[]", "[La.B;"] ∧
      Target.ofMember? a m = some t ∧ a.resolve? t = some m' ∧
      a.method? (a.member m).owner (a.member m).name ["int[]", "[La.B;"] = some m' := by
  obtain ⟨v, c, m, hcompleted, hfinished, hc, hname, hmem, hm⟩ :=
    exists_unitFinished ⟨[bridgedClass]⟩ bridgedClass (by decide +kernel) rfl (.className rfl)
      (List.mem_cons_self ..)
  have hmethod : (v.atlas.member m).isMethod = true := beq_iff_eq.mpr hm.codeKind
  have howner := (hcompleted.consistent.owner hmem).2
  have hspells : v.atlas.Spells (v.atlas.member m).rawParameters ["int[]", "[La.B;"] := by
    have htypes := hm.map_rawParameters hfinished.wf
      (.cons ⟨"int[]", rfl, .canonicalArray rfl (.keyword rfl)⟩
        (.cons ⟨"a.B[]", rfl, .canonicalArray rfl (.className rfl)⟩ .nil))
    refine (List.forall₂_map_left_iff (f := fun p => (v.atlas.cls p).type)
      (R := fun d name => d.name = name ∨ d.fullName = name)).mp ?_
    rw [htypes]
    exact .cons (by decide) (.cons (by decide) .nil)
  obtain ⟨t, m', ht, hresolve, hfound, -⟩ := lookup_eq_resolve? hcompleted (Or.inl hmethod) hspells
  exact ⟨v.atlas, m, t, m', hcompleted, hmethod, by rw [howner, hname]; rfl, hspells, ht, hresolve,
    hfound hmethod⟩

end Linker

end ClassAtlas
