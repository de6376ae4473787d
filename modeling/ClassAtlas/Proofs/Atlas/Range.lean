import ClassAtlas.Atlas.Types
import ClassAtlas.Proofs.Atlas.Interning
import ClassAtlas.Proofs.Search.Reachability

/-!
# Positions that are taken

Types refer to classes and type variables by position.  While an atlas grows, the positions in a
type stay taken and its erasure stays what it was.

* `Atlas.mem_depthFirst_classes` — a search that goes on only from classes of the atlas is complete.
* `Atlas.Closed` — the type parameters and the bounds of an atlas refer to positions of it.
* `Atlas.Closed.erasure_eq` — erasures do not change as long as the variables stay.
* `Atlas.Closed.erasure_lt` — a type erases to a class of the atlas.
-/

namespace ClassAtlas

/-- The type parameters of a member; a field has none. -/
def Member.typeParameters (m : Member) : List VarId :=
  (m.codeUnit?.map (·.typeParameters)).getD []

/-- The accesses of a member: those of its code unit. -/
def Member.accesses (m : Member) : List AccessId :=
  (m.codeUnit?.map (·.accesses)).getD []

/-- The superclass and the interfaces of a class. -/
def ClassNode.supertypes (c : ClassNode) : Option TypeRef × List TypeRef :=
  (c.superclass, c.interfaces)

lemma ClassNode.rawSupertypes_of_supertypes {c : ClassNode} (h : c.supertypes = (none, [])) :
    c.rawSupertypes = [] := by
  rw [supertypes, Prod.mk.injEq] at h
  simp [rawSupertypes, rawSuperclass, rawInterfaces, h]

namespace Atlas

variable {a a' : Atlas}

/-- The classes of an atlas. -/
def classIds (a : Atlas) : Finset ClassId :=
  (Finset.range a.classes.size).image ClassId.mk

lemma card_classIds_le (a : Atlas) : a.classIds.card ≤ a.classes.size :=
  Finset.card_image_le.trans (Finset.card_range _).le

lemma mem_classIds {c : ClassId} (h : c.index < a.classes.size) : c ∈ a.classIds :=
  Finset.mem_image.mpr ⟨c.index, Finset.mem_range.mpr h, rfl⟩

/-- A search that goes on only from classes of the atlas finds all that can be reached. -/
lemma mem_depthFirst_classes {next : ClassId → List ClassId} {start c : ClassId}
    (hnext : ∀ d : ClassId, next d ≠ [] → d.index < a.classes.size) :
    c ∈ Search.depthFirst next a.classes.size start ↔ Search.Reaches next start c :=
  Search.mem_depthFirst (fun d hd => mem_classIds (hnext d hd)) a.card_classIds_le

/-- A class is the same after growing, unless nothing was and is linked at its position. -/
lemma Grows.cls_eq_or_bare (h : Grows a a') (c : ClassId) :
    a'.cls c = a.cls c ∨ (a.cls c).Bare ∧ (a'.cls c).Bare := by
  rcases lt_or_ge c.index a.classes.size with hc | hc
  · exact Or.inl (h.cls c hc)
  · exact Or.inr ⟨(Grows.refl a).bare c hc, h.bare c hc⟩

lemma Grows.content (h : Grows a a') (c : ClassId) :
    (a'.cls c).content = (a.cls c).content := by
  rcases h.cls_eq_or_bare c with heq | ⟨hb, hb'⟩
  · rw [heq]
  · rw [ClassNode.stub_iff.mp hb.toStub, ClassNode.stub_iff.mp hb'.toStub]

lemma Grows.supertypes (h : Grows a a') (c : ClassId) :
    (a'.cls c).supertypes = (a.cls c).supertypes :=
  congrArg (fun content => (content.1, content.2.1)) (h.content c)

lemma Grows.typeParameters (h : Grows a a') (c : ClassId) :
    (a'.cls c).typeParameters = (a.cls c).typeParameters :=
  congrArg (·.2.2.1) (h.content c)

lemma Grows.enclosingClass (h : Grows a a') (c : ClassId) :
    (a'.cls c).enclosingClass = (a.cls c).enclosingClass :=
  congrArg (·.2.2.2.1) (h.content c)

lemma Grows.classMembers (h : Grows a a') (c : ClassId) :
    (a'.cls c).members = (a.cls c).members :=
  congrArg (·.2.2.2.2.1) (h.content c)

lemma Grows.annotations (h : Grows a a') (c : ClassId) :
    (a'.cls c).annotations = (a.cls c).annotations :=
  congrArg (·.2.2.2.2.2) (h.content c)

/-- No variable gets other bounds by growing: what is added has none. -/
lemma Grows.bounds (h : Grows a a') (v : VarId) :
    (a'.typeVar v).bounds = (a.typeVar v).bounds := by
  rcases lt_or_ge v.index a.typeVars.size with hv | hv
  · rw [h.typeVar v hv]
  · rw [h.unbounded v hv, (Grows.refl a).unbounded v hv]

lemma Grows.member (h : Grows a a') (m : MemberId) : a'.member m = a.member m := by
  rw [Atlas.member, Atlas.member, h.members]

/-- The positions that the type parameters and the bounds of an atlas refer to are taken, and so is
the position of `java.lang.Object`. -/
structure Closed (a : Atlas) : Prop where
  nonempty : 0 < a.classes.size
  classParameters : ∀ c : ClassId, ∀ v ∈ (a.cls c).typeParameters, v.index < a.typeVars.size
  unitParameters : ∀ m : MemberId, ∀ v ∈ (a.member m).typeParameters, v.index < a.typeVars.size
  bounds : ∀ v : VarId, ∀ bound ∈ (a.typeVar v).bounds,
    bound.Within a.classes.size a.typeVars.size

lemma Closed.grows (ha : Closed a) (h : Grows a a') : Closed a' where
  nonempty := ha.nonempty.trans_le h.classesSize
  classParameters c v hv := by
    rw [h.typeParameters] at hv
    exact (ha.classParameters c v hv).trans_le h.typeVarsSize
  unitParameters m v hv := by
    rw [h.member] at hv
    exact (ha.unitParameters m v hv).trans_le h.typeVarsSize
  bounds v bound hb := by
    rw [h.bounds] at hb
    exact (ha.bounds v bound hb).mono h.classesSize h.typeVarsSize

/-- A change that leaves the type variables alone and adds no classes. -/
lemma Closed.of_typeVars (ha : Closed a) (hclasses : a'.classes.size = a.classes.size)
    (hvars : a'.typeVars = a.typeVars)
    (hclass : ∀ c, ∀ v ∈ (a'.cls c).typeParameters,
      v ∈ (a.cls c).typeParameters ∨ v.index < a.typeVars.size)
    (hmember : ∀ m, ∀ v ∈ (a'.member m).typeParameters,
      v ∈ (a.member m).typeParameters ∨ v.index < a.typeVars.size) : Closed a' where
  nonempty := hclasses ▸ ha.nonempty
  classParameters c v hv := by
    rw [hvars]
    exact (hclass c v hv).elim (ha.classParameters c v) id
  unitParameters m v hv := by
    rw [hvars]
    exact (hmember m v hv).elim (ha.unitParameters m v) id
  bounds v bound hb := by
    rw [typeVar, hvars] at hb
    rw [hclasses, hvars]
    exact ha.bounds v bound hb

/-- The classes that types erase to are taken positions. -/
lemma Closed.erasureWithin_lt (ha : Closed a) : ∀ (n : ℕ) {type : TypeRef},
    type.Within a.classes.size a.typeVars.size → (a.erasureWithin n type).index < a.classes.size
  | 0, _, _ => ha.nonempty
  | n + 1, .cls _, h => h
  | n + 1, .parameterized _ _, h => h.1
  | n + 1, .genericArray _ _, h => h.2
  | n + 1, .variable v, _ => by
      simp only [erasureWithin]
      rcases hb : (a.typeVar v).bounds with _ | ⟨bound, rest⟩
      · exact ha.nonempty
      · exact ha.erasureWithin_lt n (ha.bounds v bound (by simp [hb]))
  | n + 1, .wildcard [] _, _ => ha.nonempty
  | n + 1, .wildcard (_ :: _) _, h => ha.erasureWithin_lt n h.1.1

theorem Closed.erasure_lt (ha : Closed a) {type : TypeRef}
    (h : type.Within a.classes.size a.typeVars.size) :
    (a.erasure type).index < a.classes.size :=
  ha.erasureWithin_lt 33 h

/-- Erasures stay what they are as long as variables do. -/
lemma Closed.erasureWithin_eq (ha : Closed a)
    (hvar : ∀ v : VarId, v.index < a.typeVars.size → a'.typeVar v = a.typeVar v) :
    ∀ (n : ℕ) {type : TypeRef}, type.Within a.classes.size a.typeVars.size →
      a'.erasureWithin n type = a.erasureWithin n type
  | 0, _, _ => rfl
  | n + 1, .cls _, _ => rfl
  | n + 1, .parameterized _ _, _ => rfl
  | n + 1, .genericArray _ _, _ => rfl
  | n + 1, .variable v, h => by
      simp only [erasureWithin, hvar v h]
      rcases hb : (a.typeVar v).bounds with _ | ⟨bound, rest⟩
      · rfl
      · exact ha.erasureWithin_eq hvar n (ha.bounds v bound (by simp [hb]))
  | n + 1, .wildcard [] _, _ => rfl
  | n + 1, .wildcard (_ :: _) _, h => ha.erasureWithin_eq hvar n h.1.1

theorem Closed.erasure_eq (ha : Closed a)
    (hvar : ∀ v : VarId, v.index < a.typeVars.size → a'.typeVar v = a.typeVar v) {type : TypeRef}
    (h : type.Within a.classes.size a.typeVars.size) : a'.erasure type = a.erasure type :=
  ha.erasureWithin_eq hvar 33 h

end Atlas

end ClassAtlas
