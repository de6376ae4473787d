import ClassAtlas.Proofs.Resolution.Targets
import ClassAtlas.Proofs.Text.Separators
import ClassAtlas.Proofs.TypeName.NormalForm

/-!
# What the full name of a target says

Targets count as the same if their full names are equal.  A full name is glued together from the
name of the owner, the name of the member and, for a code unit, the canonical names of the
parameters.  It can be taken apart again, as long as no part holds the sign at which the next one
starts.

* `Named.fullName_inj` — no two classes have the same canonical name.
* `PlainTarget` — the parts of a full name can be told apart.
* `TargetOf` — the targets of an atlas that have full names.
* `resolve?_congr` — targets with the same owner, name and parameters resolve to the same member.
* `sameAs_iff_of_plain` — **targets that count as the same have the same owner, name and
  parameters**, so they resolve to the same member.
-/

namespace ClassAtlas

namespace Atlas

variable {a : Atlas} {t u : Target}

/-- **No two classes have the same canonical name.** -/
lemma Named.fullName_inj (ha : Named a) {i j : ClassId} (hi : i.index < a.classes.size)
    (hj : j.index < a.classes.size) (h : (a.cls i).fullName = (a.cls j).fullName) : i = j :=
  ha.name_inj hi hj (congrArg Descriptor.name ((ha.proper hi).fullName_inj (ha.proper hj) h))

lemma toList_signatureText (a : Atlas) (kind : CodeKind) (ps : List ClassId) :
    (a.signatureText (some kind) ps).toList =
      '(' :: ([',', ' '].intercalate (ps.map fun p => (a.cls p).fullName.toList) ++ [')']) := by
  simp [signatureText, Function.comp_def]

/-- Parameters can be read off their canonical names with separators between them. -/
lemma Named.parameters_inj (ha : Named a) {ps qs : List ClassId}
    (hps : ∀ p ∈ ps, p.index < a.classes.size ∧ ',' ∉ (a.cls p).name.toList)
    (hqs : ∀ q ∈ qs, q.index < a.classes.size ∧ ',' ∉ (a.cls q).name.toList)
    (h : [',', ' '].intercalate (ps.map fun p => (a.cls p).fullName.toList) =
      [',', ' '].intercalate (qs.map fun q => (a.cls q).fullName.toList)) : ps = qs := by
  have htexts : ∀ {ids : List ClassId},
      (∀ p ∈ ids, p.index < a.classes.size ∧ ',' ∉ (a.cls p).name.toList) →
      ∀ x ∈ ids.map fun p => (a.cls p).fullName.toList, ',' ∉ x ∧ x ≠ [] := by
    intro ids hids x hx
    obtain ⟨p, hp, rfl⟩ := List.mem_map.mp hx
    obtain ⟨hlt, hcomma⟩ := hids p hp
    refine ⟨fun hmem => hcomma ?_, (ha.proper hlt).fullName_ne_nil⟩
    exact Descriptor.mem_name_of_mem_fullName (by decide) (by decide) hmem
  have hnames := Text.intercalate_inj (htexts hps) (htexts hqs) h
  rw [← List.forall₂_eq_eq_eq, List.forall₂_map_left_iff, List.forall₂_map_right_iff] at hnames
  rw [← List.forall₂_eq_eq_eq]
  exact hnames.imp_mem fun p hp q hq heq =>
    ha.fullName_inj (hps p hp).1 (hqs q hq).1 (String.toList_inj.mp heq)

/-! ## Full names of targets -/

/-- The parts of the full name of a target can be told apart: the name of the member holds neither a
dot nor a parenthesis, that of the owner no parenthesis, and those of the parameters no comma. -/
structure PlainTarget (a : Atlas) (t : Target) : Prop where
  dot : '.' ∉ t.name.toList
  parenthesis : '(' ∉ t.name.toList
  owner : '(' ∉ (a.cls t.owner).name.toList
  comma : ∀ p ∈ t.parameters, ',' ∉ (a.cls p).name.toList

/-- A target with the full name that follows from its classes, and these are there. -/
structure KnownTarget (a : Atlas) (t : Target) : Prop extends a.SpelledTarget t where
  owner : t.owner.index < a.classes.size
  parameter : ∀ p ∈ t.parameters, p.index < a.classes.size

/-- The owner and the name of a target, as they stand in its full name. -/
def qualifiedName (a : Atlas) (t : Target) : List Char :=
  (a.cls t.owner).name.toList ++ '.' :: t.name.toList

lemma toList_targetName (a : Atlas) (t : Target) : (a.targetName t).toList =
    a.qualifiedName t ++ (a.signatureText t.kind.codeKind? t.parameters).toList := by
  simp [targetName_eq_append, qualifiedName]

lemma PlainTarget.not_mem_qualifiedName (h : a.PlainTarget t) : '(' ∉ a.qualifiedName t := by
  simp [qualifiedName, h.owner, h.parenthesis]

/-- The owner and the name are what is on the two sides of the last dot. -/
lemma Named.qualifiedName_inj (ha : Named a) (ht : a.KnownTarget t) (hu : a.KnownTarget u)
    (htplain : a.PlainTarget t) (huplain : a.PlainTarget u)
    (h : a.qualifiedName t = a.qualifiedName u) : t.owner = u.owner ∧ t.name = u.name := by
  obtain ⟨howner, hname⟩ := Text.eq_of_append_cons_last htplain.dot huplain.dot h
  exact ⟨ha.name_inj ht.owner hu.owner (String.toList_inj.mp howner), String.toList_inj.mp hname⟩

/-- **Owner, name and parameters can be read off the full name of a target**, once it is known
whether it points at a field. -/
theorem Named.eq_of_targetName_eq (ha : Named a) (ht : a.KnownTarget t) (hu : a.KnownTarget u)
    (hkind : t.kind.codeKind? = u.kind.codeKind?) (htplain : a.PlainTarget t)
    (huplain : a.PlainTarget u) (h : a.targetName t = a.targetName u) :
    t.owner = u.owner ∧ t.name = u.name ∧ t.parameters = u.parameters := by
  have htext := congrArg String.toList h
  rw [toList_targetName, toList_targetName, ← hkind] at htext
  rcases hcode : t.kind.codeKind? with _ | kind
  · -- a field has no parameters, and nothing follows its name
    rw [hcode] at hkind
    have hqualified : a.qualifiedName t = a.qualifiedName u := by
      simpa [hcode, signatureText] using htext
    obtain ⟨howner, hname⟩ := ha.qualifiedName_inj ht hu htplain huplain hqualified
    refine ⟨howner, hname, ?_⟩
    rw [ht.parameters (TargetKind.codeKind?_eq_none.mp hcode),
      hu.parameters (TargetKind.codeKind?_eq_none.mp hkind.symm)]
  · -- the parameters of a code unit start at the first parenthesis
    rw [hcode, toList_signatureText, toList_signatureText] at htext
    obtain ⟨hqualified, hrest⟩ := Text.eq_of_append_cons_first htplain.not_mem_qualifiedName
      huplain.not_mem_qualifiedName htext
    obtain ⟨howner, hname⟩ := ha.qualifiedName_inj ht hu htplain huplain hqualified
    refine ⟨howner, hname, ?_⟩
    exact ha.parameters_inj (fun p hp => ⟨ht.parameter p hp, htplain.comma p hp⟩)
      (fun p hp => ⟨hu.parameter p hp, huplain.comma p hp⟩) (List.append_cancel_right hrest)

/-! ## Resolving -/

/-- Targets with the same owner, name and parameters resolve to the same member, if they point at
members of the same kind. -/
lemma resolve?_congr (hkind : t.kind.codeKind? = u.kind.codeKind?) (howner : t.owner = u.owner)
    (hname : t.name = u.name) (hparameters : t.parameters = u.parameters) :
    a.resolve? t = a.resolve? u := by
  have hsignature : a.matchesSignature t = a.matchesSignature u := by
    funext m
    rw [matchesSignature, matchesSignature, hparameters]
  have hmatching : a.matchingMethods t = a.matchingMethods u := by
    funext c
    rw [matchingMethods, matchingMethods, hname, hsignature]
  have hfield : a.resolveField? t = a.resolveField? u := by
    rw [resolveField?, resolveField?, howner, hname]
  have hconstructor : a.resolveConstructor? t = a.resolveConstructor? u := by
    rw [resolveConstructor?, resolveConstructor?, howner, hsignature]
  have hmethod : a.resolveMethod? t = a.resolveMethod? u := by
    rw [resolveMethod?, resolveMethod?, resolveInterfaceMethod?, resolveInterfaceMethod?, howner,
      hmatching]
  rw [resolve?, resolve?]
  cases ht : t.kind <;> cases hu : u.kind <;>
    simp_all [TargetKind.codeKind?]

end Atlas

namespace Linker

open Atlas

variable {context : ImportContext} {a : Atlas} {t u : Target}

/-- The targets of an atlas that have full names: those of accesses and, if all phases succeeded,
those of direct accesses to members. -/
inductive TargetOf (context : ImportContext) (a : Atlas) : Target → Prop
  | access {i : AccessId} (hi : i.index < a.accesses.size) : TargetOf context a (a.access i).target
  | member {m : MemberId} {t : Target} (h : Succeeded context a) (hm : m.index < a.members.size)
      (ht : Target.ofMember? a m = some t) : TargetOf context a t

lemma TargetOf.known (ht : TargetOf context a t) {s : Linker} (hs : Sound s) (ha : s.atlas = a) :
    a.KnownTarget t := by
  subst ha
  have hrange := hs.integral.inRange
  cases ht with
  | access hi =>
      exact ⟨hs.target _ hi, (hrange.access _ hi).owner, (hrange.access _ hi).parameters⟩
  | member h hm htarget =>
      have hpoints := pointsAt_of_ofMember? htarget
      refine ⟨HasTarget.spelled (Or.inr ⟨_, hm, htarget⟩) h.spelled, ?_, fun p hp => ?_⟩
      · rw [hpoints.owner]
        exact (hrange.member _ hm).owner
      · rw [hpoints.parameters] at hp
        exact (hrange.member _ hm).rawParameter_lt hp

/-- **Targets that count as the same have the same owner, the same name and the same parameters**,
and therefore resolve to the same member, if both point at fields, both at methods or both at
constructors and the parts of their full names can be told apart. -/
theorem sameAs_iff_of_plain (h : Completed context a) (ht : TargetOf context a t)
    (hu : TargetOf context a u) (hkind : t.kind.codeKind? = u.kind.codeKind?)
    (htplain : a.PlainTarget t) (huplain : a.PlainTarget u) :
    (t.sameAs u = true ↔
      t.owner = u.owner ∧ t.name = u.name ∧ t.parameters = u.parameters) ∧
    (t.sameAs u = true → a.resolve? t = a.resolve? u) := by
  obtain ⟨s, hs, hatlas⟩ := h.exists_sound
  have hnamed : Named a := hatlas ▸ hs.valid.wf.named
  have htknown := ht.known hs hatlas
  have huknown := hu.known hs hatlas
  have hsame : t.sameAs u = true ↔ a.targetName t = a.targetName u := by
    rw [Target.sameAs, beq_iff_eq, htknown.fullName, huknown.fullName]
  have hparts := hnamed.eq_of_targetName_eq htknown huknown hkind htplain huplain
  refine ⟨hsame.trans ⟨hparts, ?_⟩, fun hequal => ?_⟩
  · rintro ⟨howner, hname, hparameters⟩
    rw [targetName_eq_append, targetName_eq_append, hkind, howner, hname, hparameters]
  · obtain ⟨howner, hname, hparameters⟩ := hparts (hsame.mp hequal)
    exact resolve?_congr hkind howner hname hparameters

/-- A method that calls `a.A.run(a.B[], int)`, and one that refers to it and spells the array in the
other way. -/
def respelledCalls : Record.Class :=
  { name := "a.C"
    methods := [
      { name := "m", descriptor := some "()V"
        methodCalls := [{ owner := "a.A", name := "run", parameters := ["[La.B;", "int"] }] },
      { name := "n", descriptor := some "()V"
        methodReferences := [{ owner := "a.A", name := "run", parameters := ["a.B[]", "int"] }] }] }

def respelledCallsBatch : Batch :=
  ⟨[respelledCalls]⟩

/-- What the two have in common, however the parameters are spelled. -/
lemma LinkedUse.plainTarget {v : Linker} {kind : AccessKind} {names : List String} {x : Use}
    (h : LinkedUse v (.call kind { owner := "a.A", name := "run", parameters := names }) x)
    (hv : v.WF) (hkind : kind.targetKind.codeKind? = some .method)
    (hnames : List.Forall₂ (fun n d => Registry.Denotes n.toList d) names
      [.array (.object "a.B"), .primitive .int]) :
    v.atlas.PlainTarget x.2.1 ∧ x.2.1.fullName = "a.A.run(a.B[], int)" := by
  have hA : Registry.Denotes "a.A".toList (.object "a.A") := .className rfl
  have howner : (v.atlas.cls x.2.1.owner).name = "a.A" :=
    congrArg Descriptor.name ((hv.named.denotes h.owner).unique hA)
  have hname : x.2.1.name = "run" := h.name
  have htypes : x.2.1.parameters.map (fun p => (v.atlas.cls p).type) =
      [.array (.object "a.B"), .primitive .int] :=
    List.right_unique_forall₂' (fun _ _ _ hd he => hd.unique he)
      (List.forall₂_map_right_iff.mpr (h.parameters.imp fun _ _ hp => hv.named.denotes hp)) hnames
  refine ⟨⟨?_, ?_, ?_, fun p hp => ?_⟩, ?_⟩
  · rw [hname]
    decide
  · rw [hname]
    decide
  · rw [howner]
    decide
  · have htype : (v.atlas.cls p).type ∈ [.array (.object "a.B"), .primitive .int] :=
      htypes ▸ List.mem_map_of_mem hp
    have hcomma : ∀ d ∈ [Descriptor.array (.object "a.B"), .primitive .int],
        ',' ∉ d.name.toList := by decide
    exact hcomma _ htype
  · have hfullNames : x.2.1.parameters.map (fun p => (v.atlas.cls p).fullName) =
        ["a.B[]", "int"] := by
      have := congrArg (List.map Descriptor.fullName) htypes
      rwa [List.map_map] at this
    rw [h.fullName, targetName_eq_append, howner, hname, h.targetKind]
    change _ ++ (_ ++ signatureText _ kind.targetKind.codeKind? _) = _
    rw [hkind, signatureText, hfullNames]
    decide +kernel

theorem sameAs_iff_of_plain_respelledCallsBatch :
    ∃ a t u, Completed respelledCallsBatch.context a ∧
      TargetOf respelledCallsBatch.context a t ∧ TargetOf respelledCallsBatch.context a u ∧
      t.kind = .method ∧ u.kind = .methodReference ∧ t.fullName = "a.A.run(a.B[], int)" ∧
      t.sameAs u = true ∧ t.owner = u.owner ∧ t.parameters = u.parameters ∧
      a.resolve? t = a.resolve? u := by
  obtain ⟨a, ha, hcompleted⟩ := exists_link respelledCallsBatch (by decide +kernel)
  have hC : Registry.Denotes "a.C".toList (.object "a.C") := .className rfl
  obtain ⟨c, hc, hctype, -⟩ := exists_follows (r := respelledCalls) ha rfl hC
  obtain ⟨v, rfl, hcontext, hfinished⟩ := finished_of_link ha
  have hcname : (v.atlas.cls c).name = "a.C" := congrArg Descriptor.name hctype
  obtain ⟨-, fields, units, -, -, hunits⟩ := hfinished.cls c hc
  rw [hcontext, hcname] at hunits
  obtain ⟨m, rest, hm, hrest, rfl⟩ := List.forall₂_cons_left_iff.mp hunits
  obtain ⟨n, _, hn, -⟩ := List.forall₂_cons_left_iff.mp hrest
  obtain ⟨i, ⟨_, t, _⟩, hi, hti, ht⟩ := hm.exists_access rfl (by rw [hcontext, hcname]; rfl)
  obtain ⟨j, ⟨_, u, _⟩, hj, huj, hu⟩ := hn.exists_access rfl (by rw [hcontext, hcname]; rfl)
  obtain rfl : (v.atlas.access i).target = t := congrArg Access.target hti
  obtain rfl : (v.atlas.access j).target = u := congrArg Access.target huj
  have hB : Registry.Denotes "a.B".toList (.object "a.B") := .className rfl
  have hint : Registry.Denotes "int".toList (.primitive .int) := .keyword rfl
  obtain ⟨htplain, htname⟩ := ht.plainTarget hfinished.wf rfl
    (.cons (.classFileArray rfl hB) (.cons hint .nil))
  obtain ⟨huplain, huname⟩ := hu.plainTarget hfinished.wf rfl
    (.cons (.canonicalArray rfl hB) (.cons hint .nil))
  have hkind := (congrArg TargetKind.codeKind? ht.targetKind).trans
    (congrArg TargetKind.codeKind? hu.targetKind).symm
  have hsame : (v.atlas.access i).target.sameAs (v.atlas.access j).target = true :=
    beq_iff_eq.mpr (htname.trans huname.symm)
  obtain ⟨hparts, hresolve⟩ := sameAs_iff_of_plain hcompleted (.access hi) (.access hj) hkind
    htplain huplain
  obtain ⟨howner, -, hparameters⟩ := hparts.mp hsame
  exact ⟨v.atlas, _, _, hcompleted, .access hi, .access hj, ht.targetKind, hu.targetKind, htname,
    hsame, howner, hparameters, hresolve hsame⟩

end Linker

end ClassAtlas
