import Mathlib.Data.Bool.Basic
import Mathlib.Data.Prod.Lex
import Mathlib.Data.String.Basic
import ClassAtlas.Proofs.Dependency.AccessIndex
import ClassAtlas.Proofs.Linker.Acyclic
import ClassAtlas.Proofs.Search.Chains

/-!
# Resolving methods

A method is looked up in the classes of the lineage first, where the nearest one decides, and only
then in the interfaces, where a method is hidden by one of an interface further down.

* `Member.rank`, `least_of_preferred?` — the candidate that is preferred has the least rank.
* `Unhidden` — a method of an interface that no other one hides.
* `exists_unhidden` — **not all of them can be hidden**, where no class is above itself.
* `resolve?_method` — **what a method target resolves to**.
-/

namespace ClassAtlas

open Search

/-! ## Preferred members -/

/-- What decides between members that would do: members of the source come before those that the
compiler made, then the full name decides, and then the descriptor. -/
def Member.rank (m : Member) : Bool ×ₗ String ×ₗ String :=
  toLex (m.isSynthetic, toLex (m.fullName, m.descriptor))

namespace Atlas

variable {a : Atlas} {c i j : ClassId} {t : Target} {m : MemberId} {ms : List MemberId}

lemma precedes_iff (m n : Member) : precedes m n = true ↔ m.rank < n.rank := by
  simp only [precedes, Member.rank, Prod.Lex.toLex_lt_toLex]
  rcases m.isSynthetic <;> rcases n.isSynthetic <;>
    by_cases hname : m.fullName = n.fullName <;> simp [hname]

/-- A member of least rank among those with a property. -/
def Least (a : Atlas) (P : MemberId → Prop) (m : MemberId) : Prop :=
  P m ∧ ∀ n, P n → (a.member m).rank ≤ (a.member n).rank

lemma preferred?_eq_argmin (ms : List MemberId) :
    a.preferred? ms = ms.argmin fun m => (a.member m).rank := by
  have hfold : ∀ (rest : List MemberId) (best : MemberId),
      rest.foldl (List.argAux fun m n => (a.member m).rank < (a.member n).rank) (some best) =
        some (rest.foldl (fun best n =>
          if precedes (a.member n) (a.member best) then n else best) best) := by
    intro rest
    induction rest with
    | nil => exact fun best => rfl
    | cons n rest ih =>
        intro best
        rw [List.foldl_cons, List.foldl_cons, ← ih]
        simp only [List.argAux, precedes_iff]
        split_ifs <;> rfl
  cases ms with
  | nil => rfl
  | cons first rest => exact (hfold rest first).symm

lemma preferred?_eq_none_iff : a.preferred? ms = none ↔ ms = [] := by
  rw [preferred?_eq_argmin, List.argmin_eq_none]

lemma least_of_preferred? (h : a.preferred? ms = some m) : a.Least (· ∈ ms) m := by
  rw [preferred?_eq_argmin] at h
  exact ⟨List.argmin_mem h, fun n hn =>
    List.le_of_mem_argmin (f := fun m => (a.member m).rank) hn h⟩

/-! ## Matching methods -/

/-- A member has the name of a target, and exactly its parameters. -/
def Matches (a : Atlas) (t : Target) (m : MemberId) : Prop :=
  (a.member m).name = t.name ∧ (a.member m).rawParameters = t.parameters

lemma mem_matchingMethods : m ∈ a.matchingMethods t c ↔ m ∈ a.methods c ∧ a.Matches t m := by
  simp [matchingMethods, matchesSignature, Matches]

lemma matchingMethods_eq_nil_iff :
    a.matchingMethods t c = [] ↔ ∀ m ∈ a.methods c, ¬ a.Matches t m := by
  simp only [List.eq_nil_iff_forall_not_mem, mem_matchingMethods, not_and]

/-- In the lineage the nearest class that has a matching method decides. -/
lemma exists_nearest
    (h : ((a.lineage t.owner).findSome? fun c => a.preferred? (a.matchingMethods t c)) = some m) :
    ∃ nearer c farther, a.lineage t.owner = nearer ++ c :: farther ∧
      (∀ d ∈ nearer, ∀ n ∈ a.methods d, ¬ a.Matches t n) ∧
      a.Least (fun n => n ∈ a.methods c ∧ a.Matches t n) m := by
  obtain ⟨nearer, c, farther, hsplit, hpreferred, hnone⟩ := List.findSome?_eq_some_iff.mp h
  refine ⟨nearer, c, farther, hsplit, fun d hd => ?_, ?_⟩
  · exact matchingMethods_eq_nil_iff.mp (preferred?_eq_none_iff.mp (hnone d hd))
  · simpa only [mem_matchingMethods] using least_of_preferred? hpreferred

/-! ## Hidden methods -/

/-- A method of an interface of the owner that matches a target. -/
def InterfaceMatch (a : Atlas) (t : Target) (m : MemberId) : Prop :=
  ∃ i ∈ a.allInterfaces t.owner, m ∈ a.methods i ∧ a.Matches t m

/-- A matching method of an interface, such that no other one is declared by an interface that has
the owner of this one among its own interfaces. -/
def Unhidden (a : Atlas) (t : Target) (m : MemberId) : Prop :=
  a.InterfaceMatch t m ∧ ∀ n, a.InterfaceMatch t n → n ≠ m →
    (a.member m).owner ∉ a.allInterfaces (a.member n).owner

lemma mem_flatMap_matchingMethods :
    m ∈ (a.allInterfaces t.owner).flatMap (a.matchingMethods t) ↔ a.InterfaceMatch t m := by
  simp only [List.mem_flatMap, mem_matchingMethods, InterfaceMatch]

/-- An interface of a class is strictly above it. -/
lemma transGen_of_mem_allInterfaces (h : i ∈ a.allInterfaces c) :
    Relation.TransGen (fun x p => p ∈ (a.cls x).rawSupertypes) c i := by
  obtain ⟨j, hj, hreaches⟩ := reaches_of_mem_breadthFirst h
  obtain ⟨l, hl, hinterface⟩ := List.mem_flatMap.mp hj
  have hstep : Relation.TransGen (fun x p => p ∈ (a.cls x).rawSupertypes) c j :=
    .tail' (above_of_mem_lineage hl) (List.mem_append_right _ hinterface)
  exact hstep.trans_left (Reaches.mono (fun _ => List.subset_append_right _ _) hreaches)

/-- The interfaces that a class names are among its interfaces. -/
lemma Acyclic.mem_allInterfaces (h : a.Acyclic) (hi : i ∈ (a.cls c).rawInterfaces) :
    i ∈ a.allInterfaces c := by
  refine (a.closed_allInterfaces c).1 i
    (List.mem_flatMap.mpr ⟨c, a.self_mem_lineage c, hi⟩) fun heq => ?_
  rw [List.mem_singleton.mp heq] at hi
  exact h c (.single (List.mem_append_right _ hi))

/-- So are those that one of its interfaces names. -/
lemma Acyclic.mem_allInterfaces_of_mem (h : a.Acyclic) (hj : j ∈ a.allInterfaces c)
    (hi : i ∈ (a.cls j).rawInterfaces) : i ∈ a.allInterfaces c := by
  refine (a.closed_allInterfaces c).2 j hj i hi fun heq => ?_
  rw [List.mem_singleton.mp heq] at hi
  exact h c ((transGen_of_mem_allInterfaces hj).tail (List.mem_append_right _ hi))

/-- **Not all matching methods of interfaces are hidden**: one with the most classes above its owner
is not, as there are more above an interface further down. -/
theorem exists_unhidden (h : a.Acyclic) (hm : a.InterfaceMatch t m) : ∃ n, a.Unhidden t n := by
  let candidates := ((a.allInterfaces t.owner).flatMap (a.matchingMethods t)).toFinset
  have hmem : ∀ n, n ∈ candidates ↔ a.InterfaceMatch t n := fun n => by
    rw [List.mem_toFinset, mem_flatMap_matchingMethods]
  obtain ⟨n, hn, hmost⟩ := candidates.exists_max_image
    (fun n => (a.fieldLookupOrder (a.member n).owner).length) ⟨m, (hmem m).mpr hm⟩
  refine ⟨n, (hmem n).mp hn, fun k hk _ hhides => ?_⟩
  have hlt := h.length_lt (transGen_of_mem_allInterfaces hhides)
  exact (hmost k ((hmem k).mpr hk)).not_gt hlt

/-- Which candidates are kept. -/
lemma mem_filter_unhidden (h : a.Acyclic) :
    (m ∈ ((a.allInterfaces t.owner).flatMap (a.matchingMethods t)).filter fun m =>
      !(((a.allInterfaces t.owner).flatMap (a.matchingMethods t)).map
        fun m => (a.member m).owner).any fun other =>
          other != (a.member m).owner && (a.allInterfaces other).contains (a.member m).owner) ↔
      a.Unhidden t m := by
  rw [List.mem_filter, mem_flatMap_matchingMethods, Unhidden, and_congr_right_iff]
  intro _
  simp only [Bool.not_eq_true', List.any_eq_false, List.mem_map, Bool.and_eq_true, bne_iff_ne,
    List.contains_iff_mem, not_and, mem_flatMap_matchingMethods]
  constructor
  · intro hkept n hn _ hhides
    refine hkept _ ⟨n, hn, rfl⟩ (fun heq => ?_) hhides
    rw [heq] at hhides
    exact h _ (transGen_of_mem_allInterfaces hhides)
  · rintro hunhidden _ ⟨n, hn, rfl⟩ hne
    exact hunhidden n hn fun heq => hne (heq ▸ rfl)

lemma least_of_resolveInterfaceMethod? (h : a.Acyclic) (hm : a.resolveInterfaceMethod? t = some m) :
    a.Least (a.Unhidden t) m := by
  obtain ⟨hmem, hleast⟩ := least_of_preferred? hm
  exact ⟨(mem_filter_unhidden h).mp hmem, fun n hn => hleast n ((mem_filter_unhidden h).mpr hn)⟩

lemma resolveInterfaceMethod?_eq_none_iff (h : a.Acyclic) :
    a.resolveInterfaceMethod? t = none ↔ ∀ m, ¬ a.InterfaceMatch t m := by
  refine preferred?_eq_none_iff.trans (List.eq_nil_iff_forall_not_mem.trans ?_)
  simp only [mem_filter_unhidden h]
  refine ⟨fun hnone m hm => ?_, fun hnone m hm => hnone m hm.1⟩
  obtain ⟨n, hn⟩ := exists_unhidden h hm
  exact hnone n hn

/-! ## Resolution -/

lemma findSome?_lineage_eq_none_iff :
    ((a.lineage t.owner).findSome? fun c => a.preferred? (a.matchingMethods t c)) = none ↔
      ∀ c ∈ a.lineage t.owner, ∀ m ∈ a.methods c, ¬ a.Matches t m := by
  simp only [List.findSome?_eq_none_iff, preferred?_eq_none_iff, matchingMethods_eq_nil_iff]

lemma resolveMethod?_eq_none_iff (h : a.Acyclic) :
    a.resolveMethod? t = none ↔ ∀ m ∈ a.allMethods t.owner, ¬ a.Matches t m := by
  rw [resolveMethod?, Option.orElse_eq_none, findSome?_lineage_eq_none_iff,
    resolveInterfaceMethod?_eq_none_iff h]
  simp only [allMethods, assignableTo, List.mem_flatMap, List.mem_append, InterfaceMatch]
  constructor
  · rintro ⟨hlineage, hinterfaces⟩ m ⟨c, hc | hc, hm⟩ hmatches
    · exact hlineage c hc m hm hmatches
    · exact hinterfaces m ⟨c, hc, hm, hmatches⟩
  · intro hnone
    refine ⟨fun c hc m hm => hnone m ⟨c, Or.inl hc, hm⟩, ?_⟩
    rintro m ⟨c, hc, hm, hmatches⟩
    exact hnone m ⟨c, Or.inr hc, hm⟩ hmatches

lemma resolve?_eq_resolveMethod? (h : t.kind = .method ∨ t.kind = .methodReference) :
    a.resolve? t = a.resolveMethod? t := by
  rcases h with h | h <;> rw [resolve?, h]

end Atlas

namespace Linker

open Atlas

variable {context : ImportContext} {a : Atlas} {t : Target}

/-- **What a method target resolves to**, where no class is above itself.  It is left unresolved
only if no class or interface has a matching method.  If a class of the lineage has one, the nearest
such class decides, and otherwise the interfaces whose method no other one hides; where these leave
a choice, it is the method of least rank. -/
theorem resolve?_method (h : Completed context a) (hacyclic : a.Acyclic)
    (hkind : t.kind = .method ∨ t.kind = .methodReference) :
    (a.resolve? t = none ↔ ∀ m ∈ a.allMethods t.owner, ¬ a.Matches t m) ∧
    ∀ m, a.resolve? t = some m →
      ((∃ c ∈ a.lineage t.owner, ∃ n ∈ a.methods c, a.Matches t n) →
        ∃ nearer farther, a.lineage t.owner = nearer ++ (a.member m).owner :: farther ∧
          (∀ c ∈ nearer, ∀ n ∈ a.methods c, ¬ a.Matches t n) ∧
          a.Least (fun n => n ∈ a.methods (a.member m).owner ∧ a.Matches t n) m) ∧
      ((∀ c ∈ a.lineage t.owner, ∀ n ∈ a.methods c, ¬ a.Matches t n) →
        a.Least (a.Unhidden t) m) := by
  rw [resolve?_eq_resolveMethod? hkind]
  refine ⟨resolveMethod?_eq_none_iff hacyclic, fun m hm => ?_⟩
  rw [resolveMethod?, Option.orElse_eq_some, findSome?_lineage_eq_none_iff] at hm
  rcases hm with hm | ⟨hnone, hm⟩
  · obtain ⟨nearer, c, farther, hsplit, hnearer, hleast⟩ := exists_nearest hm
    refine ⟨fun _ => ⟨nearer, farther, ?_⟩, fun hnone => ?_⟩
    · have howner := (h.consistent.owner (List.mem_of_mem_filter hleast.1.1)).2
      rw [howner]
      exact ⟨hsplit, hnearer, hleast⟩
    · have hc : c ∈ a.lineage t.owner := by simp [hsplit]
      exact absurd hleast.1.2 (hnone c hc m hleast.1.1)
  · refine ⟨?_, fun _ => least_of_resolveInterfaceMethod? hacyclic hm⟩
    rintro ⟨c, hc, n, hn, hmatches⟩
    exact absurd hmatches (hnone c hc n hn)

/-- Three interfaces, each of which extends the one before; the first two have the same method. -/
def hidingBatch : Batch :=
  ⟨[{ name := "a.I", kind := .interface, methods := [.method "m" [] "void"] },
    { name := "a.J", kind := .interface, interfaces := [.cls "a.I"]
      methods := [.method "m" [] "void"] },
    { name := "a.K", kind := .interface, interfaces := [.cls "a.J"] }]⟩

/-- The method of the first one is hidden. -/
theorem resolve?_method_hidingBatch :
    ∃ a i m, ∃ t : Target, Completed hidingBatch.context a ∧ a.Acyclic ∧ t.kind = .method ∧
      (a.cls t.owner).name = "a.K" ∧ (a.cls i).name = "a.I" ∧ i ∈ a.allInterfaces t.owner ∧
      a.resolve? t = some m ∧ a.Least (a.Unhidden t) m ∧ (a.member m).owner ≠ i := by
  obtain ⟨a, ha, hcompleted⟩ := exists_link hidingBatch (by decide +kernel)
  have hI : Registry.Denotes "a.I".toList (.object "a.I") := .className rfl
  have hJ : Registry.Denotes "a.J".toList (.object "a.J") := .className rfl
  have hK : Registry.Denotes "a.K".toList (.object "a.K") := .className rfl
  obtain ⟨i, hi, hitype, -⟩ := exists_follows (r := hidingBatch.classes[0]) ha rfl hI
  obtain ⟨j, hj, hjtype, hjfollows⟩ := exists_follows (r := hidingBatch.classes[1]) ha rfl hJ
  obtain ⟨k, hk, hktype, hkfollows⟩ := exists_follows (r := hidingBatch.classes[2]) ha rfl hK
  have hacyclic : a.Acyclic := acyclic_of_link ha ["a.I", "a.J", "a.K"].idxOf (by decide +kernel)
  obtain ⟨s, hvalid, rfl⟩ := hcompleted.exists_valid
  have hjraw := rawInterfaces_of_follows hjfollows hvalid.wf.named (lt_of_imported hi)
    (hitype ▸ hI) rfl
  have hkraw := rawInterfaces_of_follows hkfollows hvalid.wf.named (lt_of_imported hj)
    (hjtype ▸ hJ) rfl
  have hij : i ∈ s.atlas.allInterfaces j := hacyclic.mem_allInterfaces (by simp [hjraw])
  have hjk : j ∈ s.atlas.allInterfaces k := hacyclic.mem_allInterfaces (by simp [hkraw])
  have hik : i ∈ s.atlas.allInterfaces k :=
    hacyclic.mem_allInterfaces_of_mem hjk (by simp [hjraw])
  have hlineage : s.atlas.lineage k = [k] := by
    refine depthFirst_of_nil ?_
    rw [ClassNode.rawSuperclass, hkfollows.superclass.eq_none]
    rfl
  have hempty : s.atlas.methods k = [] := by
    simp [methods, declared, List.map_eq_nil_iff.mp hkfollows.members]
  obtain ⟨mj, hmembers, hmj⟩ := List.map_eq_singleton_iff.mp hjfollows.members
  rw [Prod.mk.injEq] at hmj
  have hmethod : mj ∈ s.atlas.methods j := by
    simp [methods, declared, hmembers, Member.isMethod, hmj]
  have howner := (hcompleted.consistent.owner (List.mem_of_mem_filter hmethod)).2
  let t : Target := ⟨.method, k, "m", (s.atlas.member mj).rawParameters, object, "a.K.m()"⟩
  have hmatch : s.atlas.InterfaceMatch t mj := ⟨j, hjk, hmethod, hmj.2, rfl⟩
  obtain ⟨hnone, hsome⟩ := resolve?_method (t := t) hcompleted hacyclic (Or.inl rfl)
  rcases hm : s.atlas.resolve? t with _ | m
  · have hall : mj ∈ s.atlas.allMethods k :=
      List.mem_flatMap.mpr ⟨j, List.mem_append_right _ hjk, hmethod⟩
    exact absurd ⟨hmj.2, rfl⟩ (hnone.mp hm mj hall)
  · have hleast : s.atlas.Least (s.atlas.Unhidden t) m := by
      refine (hsome m hm).2 fun c hc n hn => ?_
      obtain rfl : c = k := List.mem_singleton.mp (hlineage ▸ hc)
      rw [hempty] at hn
      cases hn
    refine ⟨s.atlas, i, m, t, hcompleted, hacyclic, rfl, congrArg Descriptor.name hktype,
      congrArg Descriptor.name hitype, hik, hm, hleast, ?_⟩
    rintro rfl
    refine hleast.1.2 mj hmatch (fun heq => ?_) (howner ▸ hij)
    -- the other method is not that of the first interface, which is above the second
    rw [← heq, howner] at hij
    exact hacyclic j (transGen_of_mem_allInterfaces hij)

end Linker

end ClassAtlas
