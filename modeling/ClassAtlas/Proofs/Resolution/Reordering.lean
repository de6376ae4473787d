import ClassAtlas.Proofs.Resolution.Methods

/-!
# Resolution does not depend on the order of declarations

A class lists its interfaces and its members in some order, and the searches go through them in that
order.  What a method or constructor target resolves to does not depend on it: which candidates
there are and which of them are hidden is a question of membership, and between those that are left
the rank decides.  Members of the same rank cannot be told apart by name, descriptor and origin.

* `Atlas.Reordered` — two atlases that differ only in the order of these lists.
* `Reordered.mem_allInterfaces` — they have the same interfaces above a class, in some order.
* `SameRank`, `Reordered.sameRank_preferred?` — from the same candidates a member of the same rank
  is preferred.
* `resolve?_reordered` — **a code target resolves to members of the same rank in both**.
-/

namespace ClassAtlas

open Search

namespace Atlas

variable {a b : Atlas} {c i : ClassId} {t : Target} {m : MemberId}

/-- The atlases are the same but for the order in which the classes list their interfaces and their
members. -/
structure Reordered (a b : Atlas) : Prop where
  rest : b = { a with classes := b.classes }
  size : b.classes.size = a.classes.size
  cls : ∀ c, b.cls c =
    { a.cls c with interfaces := (b.cls c).interfaces, members := (b.cls c).members }
  interfaces : ∀ c, (b.cls c).interfaces.Perm (a.cls c).interfaces
  members : ∀ c, (b.cls c).members.Perm (a.cls c).members

namespace Reordered

/-- The members themselves are the same. -/
lemma member (h : a.Reordered b) (m : MemberId) : b.member m = a.member m := by
  rw [h.rest]
  rfl

lemma symm (h : a.Reordered b) : b.Reordered a where
  rest := by rw [h.rest]
  size := h.size.symm
  cls c := by rw [h.cls c]
  interfaces c := (h.interfaces c).symm
  members c := (h.members c).symm

lemma lineage (h : a.Reordered b) (c : ClassId) : b.lineage c = a.lineage c := by
  have hsuper : ∀ d, (b.cls d).rawSuperclass = (a.cls d).rawSuperclass := fun d => by
    rw [h.cls d]
    rfl
  simp only [Atlas.lineage, hsuper, h.size]

lemma mem_rawInterfaces (h : a.Reordered b) :
    i ∈ (b.cls c).rawInterfaces ↔ i ∈ (a.cls c).rawInterfaces :=
  ((h.interfaces c).filterMap TypeRef.rawClass?).mem_iff

lemma mem_declared (h : a.Reordered b) (wanted : Member → Bool) :
    m ∈ b.declared c wanted ↔ m ∈ a.declared c wanted := by
  simp only [declared, List.mem_filter, (h.members c).mem_iff, h.member]

/-- The interfaces above a class in one atlas are a set that the search in the other could stop
at. -/
lemma allInterfaces_subset (h : a.Reordered b) (c : ClassId) :
    b.allInterfaces c ⊆ a.allInterfaces c := by
  obtain ⟨hstart, hclosed⟩ := a.closed_allInterfaces c
  refine breadthFirst_subset (fun i hi hex => ?_) fun d hd i hi hex => ?_
  · obtain ⟨d, hd, hi⟩ := List.mem_flatMap.mp hi
    rw [h.lineage] at hd
    exact hstart i (List.mem_flatMap.mpr ⟨d, hd, h.mem_rawInterfaces.mp hi⟩) hex
  · exact hclosed d hd i (h.mem_rawInterfaces.mp hi) hex

/-- **The same interfaces are above a class**, whatever the order in which the search meets them. -/
lemma mem_allInterfaces (h : a.Reordered b) : i ∈ b.allInterfaces c ↔ i ∈ a.allInterfaces c :=
  ⟨fun hi => h.allInterfaces_subset c hi, fun hi => h.symm.allInterfaces_subset c hi⟩

lemma mem_matchingMethods (h : a.Reordered b) :
    m ∈ b.matchingMethods t c ↔ m ∈ a.matchingMethods t c := by
  simp only [Atlas.mem_matchingMethods, methods, h.mem_declared, Matches, h.member]

lemma interfaceMatch (h : a.Reordered b) : b.InterfaceMatch t m ↔ a.InterfaceMatch t m := by
  simp only [InterfaceMatch, h.mem_allInterfaces, methods, h.mem_declared, Matches, h.member]

end Reordered

/-! ## Members of the same rank -/

/-- Two answers that are both missing, or both members of the same rank. -/
def SameRank (a b : Atlas) : Option MemberId → Option MemberId → Prop :=
  Option.Rel fun m n => (a.member m).rank = (b.member n).rank

lemma SameRank.isSome_iff {x y : Option MemberId} (h : a.SameRank b x y) : x.isSome ↔ y.isSome := by
  cases h <;> simp

/-- Of two searches whose answers are of the same rank at every step, the first finds are so too. -/
lemma sameRank_findSome? {f g : ClassId → Option MemberId} :
    ∀ {cs : List ClassId}, (∀ c ∈ cs, a.SameRank b (f c) (g c)) →
      a.SameRank b (cs.findSome? f) (cs.findSome? g)
  | [], _ => .none
  | c :: cs, h => by
      have hrest := sameRank_findSome? fun d hd => h d (List.mem_cons_of_mem c hd)
      have hfirst := h c List.mem_cons_self
      rw [List.findSome?_cons, List.findSome?_cons]
      generalize f c = x, g c = y at hfirst
      cases hfirst with
      | some hrank => exact .some hrank
      | none => exact hrest

lemma SameRank.orElse {x y x' y' : Option MemberId} (h : a.SameRank b x y)
    (h' : a.SameRank b x' y') :
    a.SameRank b (x <|> x') (y <|> y') := by
  cases h with
  | some hrank => exact .some hrank
  | none => simpa using h'

namespace Reordered

/-- **From the same candidates a member of the same rank is preferred**: each of the two is least
among all of them. -/
lemma sameRank_preferred? (h : a.Reordered b) {ms ns : List MemberId}
    (hmem : ∀ m, m ∈ ns ↔ m ∈ ms) :
    a.SameRank b (a.preferred? ms) (b.preferred? ns) := by
  rcases hm : a.preferred? ms with _ | m
  · have hempty : ns = [] := List.eq_nil_iff_forall_not_mem.mpr fun n hn => by
      rw [hmem, preferred?_eq_none_iff.mp hm] at hn
      cases hn
    rw [preferred?_eq_none_iff.mpr hempty]
    exact .none
  · obtain ⟨hm, hleast⟩ := least_of_preferred? hm
    rcases hn : b.preferred? ns with _ | n
    · rw [← hmem, preferred?_eq_none_iff.mp hn] at hm
      cases hm
    · obtain ⟨hn, hleast'⟩ := least_of_preferred? hn
      refine .some (le_antisymm ?_ ?_)
      · rw [h.member]
        exact hleast n ((hmem n).mp hn)
      · rw [← h.member m]
        exact hleast' m ((hmem m).mpr hm)

lemma sameRank_resolveConstructor? (h : a.Reordered b) (t : Target) :
    a.SameRank b (a.resolveConstructor? t) (b.resolveConstructor? t) := by
  rw [resolveConstructor?, resolveConstructor?, h.lineage]
  refine sameRank_findSome? fun c _ => h.sameRank_preferred? fun m => ?_
  simp only [List.mem_filter, constructors, h.mem_declared, matchesSignature, h.member]

/-- Which candidates are hidden is a question of what interfaces there are. -/
lemma sameRank_resolveInterfaceMethod? (h : a.Reordered b) (t : Target) :
    a.SameRank b (a.resolveInterfaceMethod? t) (b.resolveInterfaceMethod? t) := by
  refine h.sameRank_preferred? fun m => ?_
  simp only [List.mem_filter, mem_flatMap_matchingMethods, h.interfaceMatch, h.member,
    Bool.not_eq_true', List.any_eq_false, List.mem_map, Bool.and_eq_true, bne_iff_ne,
    List.contains_iff_mem, h.mem_allInterfaces]

lemma sameRank_resolveMethod? (h : a.Reordered b) (t : Target) :
    a.SameRank b (a.resolveMethod? t) (b.resolveMethod? t) := by
  rw [resolveMethod?, resolveMethod?, h.lineage]
  refine SameRank.orElse (sameRank_findSome? fun c _ => ?_) (h.sameRank_resolveInterfaceMethod? t)
  exact h.sameRank_preferred? fun _ => h.mem_matchingMethods

lemma sameRank_resolve? (h : a.Reordered b) (hkind : t.kind ≠ .field) :
    a.SameRank b (a.resolve? t) (b.resolve? t) := by
  rw [resolve?, resolve?]
  cases hk : t.kind with
  | field => exact absurd hk hkind
  | constructor | constructorReference => exact h.sameRank_resolveConstructor? t
  | method | methodReference => exact h.sameRank_resolveMethod? t

end Reordered

/-- **The order in which classes list their interfaces and members does not matter** to a method or
constructor target: it is resolved in both atlases or in neither, and the members that it resolves
to have the same full name, the same descriptor and the same origin. -/
theorem resolve?_reordered (h : a.Reordered b) (hkind : t.kind ≠ .field) :
    ((a.resolve? t).isSome ↔ (b.resolve? t).isSome) ∧
    ∀ m n, a.resolve? t = some m → b.resolve? t = some n →
      (a.member m).fullName = (b.member n).fullName ∧
      (a.member m).descriptor = (b.member n).descriptor ∧
      (a.member m).isSynthetic = (b.member n).isSynthetic := by
  have hrank := h.sameRank_resolve? hkind
  refine ⟨hrank.isSome_iff, fun m n hm hn => ?_⟩
  rw [hm, hn] at hrank
  cases hrank with
  | some hrank =>
      simp only [Member.rank, EmbeddingLike.apply_eq_iff_eq, Prod.mk.injEq] at hrank
      exact ⟨hrank.2.1, hrank.2.2, hrank.1⟩

/-! ## Reading the lists backwards -/

/-- The atlas whose classes list their interfaces and members backwards. -/
def reversed (a : Atlas) : Atlas :=
  { a with classes := a.classes.map fun c =>
      { c with interfaces := c.interfaces.reverse, members := c.members.reverse } }

lemma cls_reversed (a : Atlas) (c : ClassId) : a.reversed.cls c =
    { a.cls c with
      interfaces := (a.cls c).interfaces.reverse, members := (a.cls c).members.reverse } := by
  simp only [cls, reversed, Array.getD_eq_getD_getElem?, Array.getElem?_map]
  cases a.classes[c.index]? <;> rfl

lemma reordered_reversed (a : Atlas) : a.Reordered a.reversed where
  rest := rfl
  size := Array.size_map
  cls c := by rw [cls_reversed]
  interfaces c := by
    rw [cls_reversed]
    exact List.reverse_perm _
  members c := by
    rw [cls_reversed]
    exact List.reverse_perm _

end Atlas

namespace Linker

open Atlas

/-- An interface that extends two others, which have the same method. -/
def twoInterfaces : Batch :=
  ⟨[{ name := "a.I", kind := .interface, methods := [.method "m" [] "void"] },
    { name := "a.J", kind := .interface, methods := [.method "m" [] "void"] },
    { name := "a.K", kind := .interface, interfaces := [.cls "a.J", .cls "a.I"] }]⟩

/-- The method is the same when the two are read in the other order. -/
theorem resolve?_reordered_twoInterfaces :
    ∃ a k m n, ∃ t : Target, Completed twoInterfaces.context a ∧ a.Reordered a.reversed ∧
      (a.reversed.cls k).rawInterfaces ≠ (a.cls k).rawInterfaces ∧ t.kind ≠ .field ∧
      t.owner = k ∧ a.resolve? t = some m ∧ a.reversed.resolve? t = some n ∧
      (a.member m).fullName = (a.reversed.member n).fullName ∧
      (a.member m).descriptor = (a.reversed.member n).descriptor ∧
      (a.member m).isSynthetic = (a.reversed.member n).isSynthetic := by
  obtain ⟨a, ha, hcompleted⟩ := exists_link twoInterfaces (by decide +kernel)
  have hI : Registry.Denotes "a.I".toList (.object "a.I") := .className rfl
  have hJ : Registry.Denotes "a.J".toList (.object "a.J") := .className rfl
  have hK : Registry.Denotes "a.K".toList (.object "a.K") := .className rfl
  obtain ⟨i, hi, hitype, -⟩ := exists_follows (r := twoInterfaces.classes[0]) ha rfl hI
  obtain ⟨j, hj, hjtype, hjfollows⟩ := exists_follows (r := twoInterfaces.classes[1]) ha rfl hJ
  obtain ⟨k, hk, hktype, hkfollows⟩ := exists_follows (r := twoInterfaces.classes[2]) ha rfl hK
  have hacyclic : a.Acyclic := acyclic_of_link ha ["a.I", "a.J", "a.K"].idxOf (by decide +kernel)
  obtain ⟨s, hvalid, rfl⟩ := hcompleted.exists_valid
  have hkraw : (s.atlas.cls k).rawInterfaces = [j, i] := rawInterfaces_of_forall₂ ["a.J", "a.I"]
    hkfollows hvalid.wf.named (.cons ⟨lt_of_imported hj, hjtype ▸ hJ⟩
      (.cons ⟨lt_of_imported hi, hitype ▸ hI⟩ .nil)) rfl
  have hij : i ≠ j := ne_of_type hitype hjtype (by decide)
  obtain ⟨mj, hmembers, hmj⟩ := List.map_eq_singleton_iff.mp hjfollows.members
  rw [Prod.mk.injEq] at hmj
  have hmethod : mj ∈ s.atlas.methods j := by
    simp [methods, declared, hmembers, Member.isMethod, hmj]
  let t : Target := ⟨.method, k, "m", (s.atlas.member mj).rawParameters, object, "a.K.m()"⟩
  have hinherited : mj ∈ s.atlas.allMethods k :=
    List.mem_flatMap.mpr ⟨j, List.mem_append_right _
      (hacyclic.mem_allInterfaces (by simp [hkraw])), hmethod⟩
  have hsome : (s.atlas.resolve? t).isSome := by
    rw [resolve?_eq_resolveMethod? (Or.inl rfl), Option.isSome_iff_ne_none, ne_eq,
      resolveMethod?_eq_none_iff hacyclic]
    exact fun hnone => hnone mj hinherited ⟨hmj.2, rfl⟩
  obtain ⟨hiff, hrank⟩ :=
    resolve?_reordered (t := t) s.atlas.reordered_reversed (by simp [t])
  obtain ⟨m, hm⟩ := Option.isSome_iff_exists.mp hsome
  obtain ⟨n, hn⟩ := Option.isSome_iff_exists.mp (hiff.mp hsome)
  refine ⟨s.atlas, k, m, n, t, hcompleted, s.atlas.reordered_reversed, ?_, by simp [t], rfl, hm, hn,
    hrank m n hm hn⟩
  have hreversed : (s.atlas.reversed.cls k).rawInterfaces = [i, j] := by
    rw [cls_reversed, ClassNode.rawInterfaces, List.filterMap_reverse, ← ClassNode.rawInterfaces,
      hkraw]
    rfl
  rw [hreversed, hkraw]
  simp [hij]

end Linker

end ClassAtlas
