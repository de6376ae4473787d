import ClassAtlas.Proofs.Linker.Finished
import ClassAtlas.Proofs.Linker.Spelling
import ClassAtlas.Proofs.Resolution.Methods

/-!
# Targets and the members they lead to

A target has a full name of its own, made up like that of a member.  Where resolving goes from a
target to a member, the two agree in all but the owner; with constructors this takes records that
name them properly, because they are found by their parameters alone.

* `HasTarget` — the targets of accesses, and of direct accesses to members.
* `memberName_eq_append`, `targetName_eq_append` — how full names are made up.
* `resolve?_sound` — **what a target has in common with the member it resolves to**.
* `resolve?_misnamed` — a target that resolves to a constructor of another name.
* `resolve?_ofMember?` — **the target of a member resolves to a member of the same full name**.
-/

namespace ClassAtlas

open Search

/-- The kind of code units that targets of a kind point at; fields are of no kind. -/
def TargetKind.codeKind? : TargetKind → Option CodeKind
  | .field => none
  | .method | .methodReference => some .method
  | .constructor | .constructorReference => some .constructor

namespace TargetKind

lemma codeKind?_eq_none {kind : TargetKind} : kind.codeKind? = none ↔ kind = .field := by
  cases kind <;> simp [codeKind?]

lemma codeKind?_eq_method {kind : TargetKind} :
    kind.codeKind? = some .method ↔ kind = .method ∨ kind = .methodReference := by
  cases kind <;> simp [codeKind?]

lemma codeKind?_eq_constructor {kind : TargetKind} :
    kind.codeKind? = some .constructor ↔ kind = .constructor ∨ kind = .constructorReference := by
  cases kind <;> simp [codeKind?]

end TargetKind

namespace Atlas

variable {a : Atlas} {c : ClassId} {t : Target} {m n : MemberId}

/-- A target of an access, or of a direct access to a member. -/
def HasTarget (a : Atlas) (t : Target) : Prop :=
  (∃ i : AccessId, i.index < a.accesses.size ∧ (a.access i).target = t) ∨
    ∃ m : MemberId, m.index < a.members.size ∧ Target.ofMember? a m = some t

/-! ## Full names -/

/-- What follows the name in a full name: nothing for a field, the parameters for a code unit. -/
def signatureText (a : Atlas) (kind : Option CodeKind) (parameters : List ClassId) : String :=
  match kind with
  | none => ""
  | some _ => "(" ++ ", ".intercalate (parameters.map fun p => (a.cls p).fullName) ++ ")"

lemma memberName_eq_append (a : Atlas) (m : Member) :
    a.memberName m = (a.cls m.owner).name ++
      ("." ++ m.name ++ a.signatureText m.codeKind? m.rawParameters) := by
  rw [memberName]
  cases m.codeKind? <;> simp [signatureText, fieldName, codeUnitName, String.append_assoc]

lemma targetName_eq_append (a : Atlas) (t : Target) :
    a.targetName t = (a.cls t.owner).name ++
      ("." ++ t.name ++ a.signatureText t.kind.codeKind? t.parameters) := by
  rw [targetName]
  cases t.kind <;>
    simp [signatureText, TargetKind.codeKind?, fieldName, codeUnitName, String.append_assoc]

lemma rawParameters_of_field {m : Member} (h : m.codeKind? = none) : m.rawParameters = [] := by
  rcases hbody : m.body with ⟨type, raw⟩ | ⟨kind, unit⟩
  · simp [Member.rawParameters, Member.parameters, Member.codeUnit?, hbody]
  · simp [Member.codeKind?, hbody] at h

/-! ## The target of a member -/

/-- A target points at a member itself: it has its kind, its owner, its names and its parameters. -/
structure PointsAt (a : Atlas) (t : Target) (m : MemberId) : Prop where
  kind : t.kind.codeKind? = (a.member m).codeKind?
  owner : t.owner = (a.member m).owner
  name : t.name = (a.member m).name
  parameters : t.parameters = (a.member m).rawParameters
  fullName : t.fullName = (a.member m).fullName

lemma pointsAt_of_ofMember? (h : Target.ofMember? a m = some t) : a.PointsAt t m := by
  rcases hcode : (a.member m).codeKind? with _ | _ | _ | _ <;>
    simp only [Target.ofMember?, hcode, Option.bind_eq_bind, Option.bind_some, Option.bind_none,
      Option.pure_def, Option.some_inj, reduceCtorEq] at h <;>
    subst h <;> exact ⟨hcode.symm, rfl, rfl, rfl, rfl⟩

/-- Everything but a static initializer can be pointed at. -/
lemma exists_ofMember? (h : (a.member m).isStaticInitializer = false) :
    ∃ t, Target.ofMember? a m = some t := by
  rcases hcode : (a.member m).codeKind? with _ | _ | _ | _
  · simp [Target.ofMember?, hcode]
  · simp [Target.ofMember?, hcode]
  · simp [Target.ofMember?, hcode]
  · simp [Member.isStaticInitializer, hcode] at h

lemma HasTarget.spelled (ht : a.HasTarget t) (h : a.Spelled) : a.SpelledTarget t := by
  rcases ht with ⟨i, hi, rfl⟩ | ⟨m, hm, htarget⟩
  · exact h.target i hi
  · obtain ⟨hkind, howner, hname, hparameters, hfullName⟩ := pointsAt_of_ofMember? htarget
    refine ⟨?_, fun hfield => ?_⟩
    · rw [hfullName, h.member m hm, memberName_eq_append, targetName_eq_append, hkind, howner,
        hname, hparameters]
    · rw [hfield] at hkind
      rw [hparameters, rawParameters_of_field hkind.symm]

/-! ## What resolving compares -/

lemma leadsTo_iff {kind : TargetKind} {m : Member} :
    leadsTo kind m = true ↔ m.codeKind? = kind.codeKind? := by
  rcases hcode : m.codeKind? with _ | _ | _ | _ <;> cases kind <;>
    simp [leadsTo, TargetKind.codeKind?, hcode]

lemma rawParameters_of_resolveConstructor? (h : a.resolveConstructor? t = some m) :
    (a.member m).rawParameters = t.parameters := by
  obtain ⟨c, -, hpreferred⟩ := List.exists_of_findSome?_eq_some h
  exact beq_iff_eq.mp (List.mem_filter.mp (mem_of_preferred? hpreferred)).2

lemma rawParameters_of_resolveMethod? (h : a.resolveMethod? t = some m) :
    (a.member m).rawParameters = t.parameters := by
  rw [resolveMethod?, Option.orElse_eq_some] at h
  rcases h with h | ⟨-, h⟩
  · obtain ⟨c, -, hpreferred⟩ := List.exists_of_findSome?_eq_some h
    exact (mem_matchingMethods.mp (mem_of_preferred? hpreferred)).2.2
  · obtain ⟨c, -, hmem⟩ := List.mem_flatMap.mp (List.mem_of_mem_filter (mem_of_preferred? h))
    exact (mem_matchingMethods.mp hmem).2.2

/-- Code units are found by their parameters. -/
lemma rawParameters_of_resolve? (h : a.resolve? t = some m) (hkind : t.kind ≠ .field) :
    (a.member m).rawParameters = t.parameters := by
  rw [resolve?] at h
  rcases hcases : t.kind <;> rw [hcases] at h
  · exact absurd hcases hkind
  · exact rawParameters_of_resolveMethod? h
  · exact rawParameters_of_resolveConstructor? h
  · exact rawParameters_of_resolveMethod? h
  · exact rawParameters_of_resolveConstructor? h

/-- A target has the parameters of the member it resolves to; with fields, neither has any. -/
lemma SpelledTarget.rawParameters_eq (ht : a.SpelledTarget t) (h : a.resolve? t = some m) :
    (a.member m).rawParameters = t.parameters := by
  by_cases hkind : t.kind = .field
  · have hfield := leadsTo_iff.mp (candidate_of_resolve? h).leadsTo
    rw [hkind] at hfield
    rw [rawParameters_of_field hfield, ht.parameters hkind]
  · exact rawParameters_of_resolve? h hkind

lemma resolve?_eq_resolveConstructor?
    (h : t.kind = .constructor ∨ t.kind = .constructorReference) :
    a.resolve? t = a.resolveConstructor? t := by
  rcases h with h | h <;> rw [resolve?, h]

/-! ## The owner comes first -/

/-- If the class itself has a candidate, the lineage is not followed any further. -/
lemma findSome?_lineage (candidates : ClassId → List MemberId) (hm : m ∈ candidates c) :
    ((a.lineage c).findSome? fun d => a.preferred? (candidates d)) =
      a.preferred? (candidates c) := by
  obtain ⟨rest, hrest⟩ := depthFirst_eq_cons (fun d => (a.cls d).rawSuperclass.toList)
    a.classes.size c
  rw [lineage, hrest, List.findSome?_cons_of_isSome]
  rw [Option.isSome_iff_ne_none, ne_eq, preferred?_eq_none_iff]
  exact List.ne_nil_of_mem hm

lemma exists_least_of_mem (candidates : ClassId → List MemberId) (hm : m ∈ candidates c) :
    ∃ m', ((a.lineage c).findSome? fun d => a.preferred? (candidates d)) = some m' ∧
      a.Least (· ∈ candidates c) m' := by
  rw [findSome?_lineage candidates hm]
  obtain ⟨m', hm'⟩ : ∃ m', a.preferred? (candidates c) = some m' := by
    rw [← Option.isSome_iff_exists, Option.isSome_iff_ne_none, ne_eq, preferred?_eq_none_iff]
    exact List.ne_nil_of_mem hm
  exact ⟨m', hm', least_of_preferred? hm'⟩

/-- Two members of a class that differ neither in kind nor in name nor in parameters. -/
structure SameSignature (a : Atlas) (m m' : MemberId) : Prop where
  listed : m' ∈ (a.cls (a.member m).owner).members
  kind : (a.member m').codeKind? = (a.member m).codeKind?
  name : (a.member m').name = (a.member m).name
  parameters : (a.member m').rawParameters = (a.member m).rawParameters

lemma mem_matchingMethods_of_pointsAt (ht : a.PointsAt t m)
    (hm : (a.member m).codeKind? = some .method) :
    n ∈ a.matchingMethods t t.owner ↔ a.SameSignature m n := by
  simp only [mem_matchingMethods, methods, declared, List.mem_filter, Matches, ht.owner, ht.name,
    ht.parameters, Member.isMethod, beq_iff_eq]
  constructor
  · rintro ⟨⟨hlisted, hkind⟩, hname, hparameters⟩
    exact ⟨hlisted, hkind.trans hm.symm, hname, hparameters⟩
  · rintro ⟨hlisted, hkind, hname, hparameters⟩
    exact ⟨⟨hlisted, hkind.trans hm⟩, hname, hparameters⟩

/-- A member of the source comes before one that the compiler made. -/
lemma isSynthetic_of_rank_le {m n : Member} (h : m.rank ≤ n.rank) (hn : n.isSynthetic = false) :
    m.isSynthetic = false := by
  have hle := Prod.Lex.monotone_fst _ _ h
  change m.isSynthetic ≤ n.isSynthetic at hle
  rw [hn] at hle
  exact Bool.eq_false_of_le_false hle

/-- The target of a member resolves to a member with the same signature, a code unit to the one of
least rank. -/
structure RoundTrip (a : Atlas) (t : Target) (m m' : MemberId) : Prop where
  resolve : a.resolve? t = some m'
  same : a.SameSignature m m'
  least : (a.member m).isField = false → ∀ n, a.SameSignature m n →
    (a.member m').rank ≤ (a.member n).rank

lemma exists_roundTrip_field (ht : a.PointsAt t m) (hm : (a.member m).codeKind? = none)
    (hlisted : m ∈ (a.cls (a.member m).owner).members) : ∃ m', a.RoundTrip t m m' := by
  have hkind : t.kind = .field := TargetKind.codeKind?_eq_none.mp (ht.kind.trans hm)
  obtain ⟨m', hm'⟩ : ∃ m', a.field? t.owner t.name = some m' := by
    rw [← Option.isSome_iff_exists, field?, List.isSome_head?]
    refine List.ne_nil_of_mem (List.mem_filter.mpr ⟨ht.owner ▸ hlisted, ?_⟩)
    simp [Member.isField, hm, ht.name]
  obtain ⟨rest, hrest⟩ := depthFirst_eq_cons a.fieldSupertypes a.classes.size t.owner
  have hresolve : a.resolve? t = some m' := by
    rw [resolve?, hkind]
    exact (congrArg _ hrest).trans
      ((List.findSome?_cons_of_isSome (by rw [hm']; rfl)).trans hm')
  obtain ⟨hlisted', hfield⟩ := List.mem_filter.mp (List.mem_of_mem_head? hm')
  rw [Bool.and_eq_true, beq_iff_eq, Member.isField, Option.isNone_iff_eq_none] at hfield
  refine ⟨m', hresolve, ⟨ht.owner ▸ hlisted', hfield.1.trans hm.symm, hfield.2.trans ht.name, ?_⟩,
    fun hunit => ?_⟩
  · rw [rawParameters_of_field hfield.1, rawParameters_of_field hm]
  · simp [Member.isField, hm] at hunit

lemma exists_roundTrip_method (ht : a.PointsAt t m) (hm : (a.member m).codeKind? = some .method)
    (hlisted : m ∈ (a.cls (a.member m).owner).members) : ∃ m', a.RoundTrip t m m' := by
  have hmem := fun n => mem_matchingMethods_of_pointsAt (n := n) ht hm
  obtain ⟨m', hfind, hm', hleast⟩ := exists_least_of_mem (a.matchingMethods t)
    ((hmem m).mpr ⟨hlisted, rfl, rfl, rfl⟩)
  refine ⟨m', ?_, (hmem m').mp hm', fun _ n hn => hleast n ((hmem n).mpr hn)⟩
  rw [resolve?_eq_resolveMethod? (TargetKind.codeKind?_eq_method.mp (ht.kind.trans hm)),
    resolveMethod?, hfind]
  rfl

/-- With constructors this takes that they all have the same name. -/
lemma exists_roundTrip_constructor (ht : a.PointsAt t m)
    (hm : (a.member m).codeKind? = some .constructor)
    (hlisted : m ∈ (a.cls (a.member m).owner).members)
    (hnames : ∀ n, (a.member n).codeKind? = some .constructor →
      (a.member n).name = constructorName) : ∃ m', a.RoundTrip t m m' := by
  have hmem : ∀ n, n ∈ (a.constructors t.owner).filter (a.matchesSignature t) ↔
      a.SameSignature m n := by
    intro n
    simp only [constructors, declared, List.mem_filter, matchesSignature, ht.owner, ht.parameters,
      Member.isConstructor, beq_iff_eq]
    constructor
    · rintro ⟨⟨hlisted, hkind⟩, hparameters⟩
      exact ⟨hlisted, hkind.trans hm.symm, (hnames n hkind).trans (hnames m hm).symm, hparameters⟩
    · rintro ⟨hlisted, hkind, -, hparameters⟩
      exact ⟨⟨hlisted, hkind.trans hm⟩, hparameters⟩
  obtain ⟨m', hfind, hm', hleast⟩ := exists_least_of_mem
    (fun c => (a.constructors c).filter (a.matchesSignature t))
    ((hmem m).mpr ⟨hlisted, rfl, rfl, rfl⟩)
  refine ⟨m', ?_, (hmem m').mp hm', fun _ n hn => hleast n ((hmem n).mpr hn)⟩
  exact (resolve?_eq_resolveConstructor?
    (TargetKind.codeKind?_eq_constructor.mp (ht.kind.trans hm))).trans hfind

end Atlas

namespace Linker

open Atlas

variable {context : ImportContext} {options : ImportOptions} {files : Files} {a : Atlas}
  {t : Target} {m : MemberId}

/-- Constructors have the name of constructors, if their records do. -/
lemma Consistent.constructor_name (h : Consistent context a)
    (hrecord : ∀ name, ∀ r ∈ context.constructors name, r.name = constructorName)
    (hm : (a.member m).codeKind? = some .constructor) : (a.member m).name = constructorName := by
  obtain ⟨name, r, hr, hrname⟩ := h.constructor (beq_iff_eq.mpr hm)
  rw [← hrname, hrecord name r hr]

/-- A target has the name of the member it resolves to, constructors included if all records name
them properly. -/
lemma Consistent.name_of_hasTarget (h : Consistent context a) (hnames : NamesConstructors context)
    (ht : a.HasTarget t) (hm : a.Candidate t m) : (a.member m).name = t.name := by
  rcases hconstructor : (a.member m).isConstructor
  · exact hm.name hconstructor
  · rcases ht with ⟨i, hi, rfl⟩ | ⟨n, -, hn⟩
    · refine h.name_eq hnames (x := a.access i) ?_ hm
      rw [Atlas.access, Array.getD, dif_pos hi]
      exact Array.mem_toList_iff.mpr (Array.getElem_mem hi)
    · have hpoints := pointsAt_of_ofMember? hn
      have hkind := beq_iff_eq.mp hconstructor
      rw [hpoints.name, h.constructor_name hnames.record hkind, h.constructor_name hnames.record]
      rw [← hpoints.kind, ← leadsTo_iff.mp hm.leadsTo, hkind]

/-- **What a target has in common with the member it resolves to**: the kind and the parameters.
The owner of the member is the owner of the target or above it.  The names are the same, unless a
constructor is looked up under another name than that of constructors; so the full name of the
member is that of the target with another owner, and with the other name if there is one. -/
theorem resolve?_sound (h : Succeeded context a) (ht : a.HasTarget t)
    (hm : a.resolve? t = some m) :
    (a.member m).codeKind? = t.kind.codeKind? ∧
    (a.member m).rawParameters = t.parameters ∧
    a.Above t.owner (a.member m).owner ∧
    (t.kind.codeKind? ≠ some .constructor ∨ NamesConstructors context →
      (a.member m).name = t.name) ∧
    ∃ rest, t.fullName = (a.cls t.owner).name ++ ("." ++ t.name ++ rest) ∧
      (a.member m).fullName =
        (a.cls (a.member m).owner).name ++ ("." ++ (a.member m).name ++ rest) := by
  have hconsistent := h.completed.consistent
  have hspelled := ht.spelled h.spelled
  have hcandidate := candidate_of_resolve? hm
  have hkind := leadsTo_iff.mp hcandidate.leadsTo
  have hparameters := hspelled.rawParameters_eq hm
  obtain ⟨c, habove, hmem⟩ := hcandidate.declared
  obtain ⟨hlt, rfl⟩ := hconsistent.owner hmem
  refine ⟨hkind, hparameters, habove, ?_,
    a.signatureText t.kind.codeKind? t.parameters, ?_, ?_⟩
  · rintro (hother | hnames)
    · refine hcandidate.name ?_
      rw [Member.isConstructor, hkind]
      exact beq_eq_false_iff_ne.mpr hother
    · exact hconsistent.name_of_hasTarget hnames ht hcandidate
  · rw [hspelled.fullName, targetName_eq_append]
  · rw [h.spelled.member m hlt, memberName_eq_append, hkind, hparameters]

/-- A class with a constructor. -/
def calledClass : Record.Class :=
  { name := "a.A", constructors := [{ name := constructorName }] }

/-- A class with a method that calls the constructor under some name. -/
def callingClass (name : String) : Record.Class :=
  { name := "a.B"
    methods := [{ name := "m", descriptor := some "()V"
                  constructorCalls := [{ owner := "a.A", name := name, line := 3 }] }] }

def constructorCallBatch (name : String) : Batch :=
  ⟨[calledClass, callingClass name]⟩

/-- The call resolves to the constructor, whatever the name. -/
lemma exists_constructorCall (name : String) :
    ∃ a t m, Succeeded (constructorCallBatch name).context a ∧ a.HasTarget t ∧
      t.kind = .constructor ∧ (a.cls t.owner).name = "a.A" ∧ t.name = name ∧ t.parameters = [] ∧
      a.resolve? t = some m ∧ m ∈ a.constructors t.owner := by
  have hread : (constructorCallBatch name).Readable := by
    change (constructorCallBatch "").Readable
    decide +kernel
  obtain ⟨a, ha, -⟩ := exists_link _ hread
  have hA : Registry.Denotes "a.A".toList (.object "a.A") := .className rfl
  have hB : Registry.Denotes "a.B".toList (.object "a.B") := .className rfl
  obtain ⟨c, hc, hctype, -⟩ := exists_follows (r := calledClass) ha rfl hA
  obtain ⟨d, hd, hdtype, -⟩ := exists_follows (r := callingClass name) ha rfl hB
  have hsucceeded := succeeded_of_link ha
  obtain ⟨v, rfl, hcontext, hfinished⟩ := finished_of_link ha
  have hcname : (v.atlas.cls c).name = "a.A" := congrArg Descriptor.name hctype
  have hdname : (v.atlas.cls d).name = "a.B" := congrArg Descriptor.name hdtype
  obtain ⟨m, hlisted, hm⟩ := hfinished.exists_unit hc hctype
    (by rw [hcontext]; exact List.mem_cons_self ..)
  obtain ⟨m', -, hm'⟩ := hfinished.exists_unit hd hdtype
    (by rw [hcontext]; exact List.mem_cons_self ..)
  obtain ⟨hkind, hparameters⟩ := hm.rawParameters_eq_nil rfl
  have huses : v.context.uses ⟨(v.atlas.cls d).name, "m", "()V"⟩ =
      [.call .constructorCall { owner := "a.A", name := name, line := 3 }] := by
    rw [hcontext, hdname]
    rfl
  obtain ⟨i, ⟨kind, t, line⟩, hi, haccess, hlinked⟩ := hm'.exists_access rfl huses
  have howner : t.owner = c :=
    hlinked.owner_eq hfinished.wf (lt_of_imported hc) (hctype ▸ hA)
  have hnil : t.parameters = [] := List.forall₂_nil_left_iff.mp hlinked.parameters
  have hmem : m ∈ (v.atlas.constructors t.owner).filter (v.atlas.matchesSignature t) := by
    simp [constructors, declared, howner, hlisted, Member.isConstructor, hkind, matchesSignature,
      hparameters, hnil]
  obtain ⟨m₁, hfind, hm₁, -⟩ := exists_least_of_mem
    (fun c => (v.atlas.constructors c).filter (v.atlas.matchesSignature t)) hmem
  refine ⟨v.atlas, t, m₁, hsucceeded, Or.inl ⟨i, hi, congrArg Access.target haccess⟩,
    hlinked.targetKind, howner ▸ hcname, hlinked.name, hnil, ?_, List.mem_of_mem_filter hm₁⟩
  exact (resolve?_eq_resolveConstructor? (Or.inl hlinked.targetKind)).trans hfind

theorem resolve?_sound_constructorCallBatch :
    ∃ a t m, Succeeded (constructorCallBatch constructorName).context a ∧ a.HasTarget t ∧
      a.resolve? t = some m ∧ (a.member m).codeKind? = some .constructor ∧
      (a.member m).rawParameters = t.parameters ∧ a.Above t.owner (a.member m).owner ∧
      (a.member m).name = t.name ∧
      ∃ rest, t.fullName = (a.cls t.owner).name ++ ("." ++ t.name ++ rest) ∧
        (a.member m).fullName =
          (a.cls (a.member m).owner).name ++ ("." ++ (a.member m).name ++ rest) := by
  obtain ⟨a, t, m, hsucceeded, ht, htkind, -, -, -, hm, -⟩ :=
    exists_constructorCall constructorName
  have hnames : NamesConstructors (constructorCallBatch constructorName).context :=
    namesConstructors_of_batch (by decide +kernel)
  obtain ⟨hkind, hparameters, habove, hname, hfullName⟩ := resolve?_sound hsucceeded ht hm
  rw [htkind] at hkind
  exact ⟨a, t, m, hsucceeded, ht, hm, hkind, hparameters, habove, hname (Or.inr hnames), hfullName⟩

/-- **A constructor is found under any name**: a call of `a.A.create()` resolves to the constructor
of `a.A`, which is declared by the owner of the target and has another name. -/
theorem resolve?_misnamed :
    ∃ a t m, Succeeded (constructorCallBatch "create").context a ∧ a.HasTarget t ∧
      a.resolve? t = some m ∧ (a.member m).owner = t.owner ∧ (a.member m).name ≠ t.name ∧
      t.fullName = "a.A.create()" ∧ (a.member m).fullName = "a.A.<init>()" := by
  obtain ⟨a, t, m, hsucceeded, ht, htkind, howner, htname, hnil, hm, hmem⟩ :=
    exists_constructorCall "create"
  obtain ⟨hlisted, hconstructor⟩ := List.mem_filter.mp hmem
  have hconsistent := hsucceeded.completed.consistent
  obtain ⟨hlt, hmowner⟩ := hconsistent.owner hlisted
  have hkind := beq_iff_eq.mp hconstructor
  have hrecords : ∀ rc ∈ (constructorCallBatch "create").classes, ∀ r ∈ rc.constructors,
      r.name = constructorName := by decide +kernel
  have hname : (a.member m).name = constructorName :=
    hconsistent.constructor_name (fun name r hr => by
      obtain ⟨rc, hrc, hr⟩ := Batch.mem_ofClass hr
      exact hrecords rc hrc r hr) hkind
  have hspelled := ht.spelled hsucceeded.spelled
  have hparameters := hspelled.rawParameters_eq hm
  refine ⟨a, t, m, hsucceeded, ht, hm, hmowner, by rw [hname, htname]; decide, ?_, ?_⟩
  · rw [hspelled.fullName, targetName_eq_append, howner, htname, htkind, hnil]
    rfl
  · rw [hsucceeded.spelled.member m hlt, memberName_eq_append, hmowner, howner, hname, hkind,
      hparameters, hnil]
    rfl

/-! ## Round trips -/

/-- **The target of a member resolves to a member of the same owner and the same full name**, if the
records of constructors are named properly.  If the member is a code unit and one of those with its
kind, its name and its parameters is of the source, then so is the one that is found. -/
theorem resolve?_ofMember? (h : Succeeded context a)
    (hnames : ∀ name, ∀ r ∈ context.constructors name, r.name = constructorName)
    (hm : m.index < a.members.size) (hinit : (a.member m).isStaticInitializer = false) :
    ∃ t m', Target.ofMember? a m = some t ∧ a.resolve? t = some m' ∧
      (a.member m').owner = (a.member m).owner ∧
      (a.member m').fullName = (a.member m).fullName ∧
      ((a.member m).isField = false →
        (∃ n, a.SameSignature m n ∧ (a.member n).isSynthetic = false) →
          (a.member m').isSynthetic = false) := by
  have hconsistent := h.completed.consistent
  have hlisted := h.mem_members hm
  obtain ⟨t, ht⟩ := exists_ofMember? hinit
  have hpoints := pointsAt_of_ofMember? ht
  obtain ⟨m', hresolve, hsame, hleast⟩ : ∃ m', a.RoundTrip t m m' := by
    rcases hkind : (a.member m).codeKind? with _ | _ | _ | _
    · exact exists_roundTrip_field hpoints hkind hlisted
    · exact exists_roundTrip_method hpoints hkind hlisted
    · exact exists_roundTrip_constructor hpoints hkind hlisted fun n hn =>
        hconsistent.constructor_name hnames hn
    · simp [Member.isStaticInitializer, hkind] at hinit
  obtain ⟨hlt, howner⟩ := hconsistent.owner hsame.listed
  refine ⟨t, m', ht, hresolve, howner, ?_, fun hunit ⟨n, hn, hsource⟩ => ?_⟩
  · rw [h.spelled.member m' hlt, h.spelled.member m hm, memberName_eq_append, memberName_eq_append,
      howner, hsame.kind, hsame.name, hsame.parameters]
  · exact isSynthetic_of_rank_le (hleast hunit n hn) hsource

/-- A class with two methods of the same name and parameters, one of which the compiler made. -/
def bridgedClass : Record.Class :=
  { name := "a.A"
    methods :=
      [{ Record.CodeUnit.method "get" ["int[]", "a.B[]"] "java.lang.Object" with
          modifiers := .ofList [.synthetic, .bridge] },
        .method "get" ["[I", "[La.B;"] "a.B"] }

theorem resolve?_ofMember?_bridgedClass :
    ∃ a m t m', Succeeded (Batch.context ⟨[bridgedClass]⟩) a ∧
      m.index < a.members.size ∧ (a.member m).isMethod = true ∧
      (a.member m).isSynthetic = true ∧ Target.ofMember? a m = some t ∧ a.resolve? t = some m' ∧
      (a.member m').owner = (a.member m).owner ∧
      (a.member m').fullName = (a.member m).fullName ∧ (a.member m').isSynthetic = false := by
  obtain ⟨a, ha, -⟩ := exists_link ⟨[bridgedClass]⟩ (by decide +kernel)
  have hA : Registry.Denotes "a.A".toList (.object "a.A") := .className rfl
  obtain ⟨c, hc, hctype, -⟩ := exists_follows (r := bridgedClass) ha rfl hA
  have hsucceeded := succeeded_of_link ha
  have hconsistent := hsucceeded.completed.consistent
  obtain ⟨v, rfl, hcontext, hfinished⟩ := finished_of_link ha
  have hunits : ∀ r ∈ bridgedClass.methods,
      (CodeKind.method, r) ∈ v.context.unitRecords bridgedClass.name := by
    rw [hcontext]
    exact fun r hr => List.mem_map_of_mem hr
  obtain ⟨m, hmem, hm⟩ := hfinished.exists_unit hc hctype (hunits _ (List.mem_cons_self ..))
  obtain ⟨n, hnmem, hn⟩ :=
    hfinished.exists_unit hc hctype (hunits _ (List.mem_cons_of_mem _ (List.mem_cons_self ..)))
  obtain ⟨hlt, howner⟩ := hconsistent.owner hmem
  -- one spells the types of its parameters by canonical names, the other one by binary names
  have hint : (Descriptor.array (.primitive .int)).Proper := by decide
  have hB : (Descriptor.array (.object "a.B")).Proper := by decide
  have hparameters := hm.rawParameters_eq hn hfinished.wf
    (.cons ⟨"int[]", rfl, Registry.denotes_fullName hint⟩
      (.cons ⟨"a.B[]", rfl, Registry.denotes_fullName hB⟩ .nil))
    (.cons ⟨"[I", rfl, Registry.denotes_name hint⟩
      (.cons ⟨"[La.B;", rfl, Registry.denotes_name hB⟩ .nil))
  have hsame : v.atlas.SameSignature m n :=
    ⟨howner ▸ hnmem, hn.codeKind.trans hm.codeKind.symm, hn.name.trans hm.name.symm, hparameters⟩
  have hsource : (v.atlas.member n).isSynthetic = false := by
    rw [Member.isSynthetic, hn.modifiers]
    decide
  have hbridge : (v.atlas.member m).isSynthetic = true := by
    rw [Member.isSynthetic, hm.modifiers]
    decide
  have hkind : (v.atlas.member m).isMethod = true := beq_iff_eq.mpr hm.codeKind
  have hnames : NamesConstructors (Batch.context ⟨[bridgedClass]⟩) :=
    namesConstructors_of_batch (by decide +kernel)
  obtain ⟨t, m', ht, hm', howner', hfullName, hfound⟩ := resolve?_ofMember? hsucceeded
    hnames.record hlt (by rw [Member.isStaticInitializer, hm.codeKind]; rfl)
  exact ⟨v.atlas, m, t, m', hsucceeded, hlt, hkind, hbridge, ht, hm', howner', hfullName,
    hfound (by rw [Member.isField, hm.codeKind]; rfl) ⟨n, hsame, hsource⟩⟩

end Linker

end ClassAtlas
