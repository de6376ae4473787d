import ClassAtlas.Atlas.Members
import ClassAtlas.Dependency.Direct
import ClassAtlas.Proofs.Atlas.Involved
import ClassAtlas.Proofs.Dependency.Order

/-!
# What a class depends on

The dependencies of a class are gathered position by position: supertypes, signatures, bounds,
annotations and bodies.

* `AnnotValue.Mentions`, `CodeUnit.Mentions`, `Atlas.Mentions` — the classes that stand in an
  annotation value, in a code unit and in a class, position by position.
* `Atlas.Collects` — a list of dependencies of one class on exactly the classes that satisfy a
  predicate.
* `Atlas.targets_dependenciesFrom` — **a class depends on exactly the classes that it mentions**,
  itself and primitive types left out, and no access is lost.
-/

namespace ClassAtlas

/-! ## Annotations -/

namespace AnnotValue

/-- A class literal, the type of an enum constant or of a nested annotation, at any depth. -/
inductive Mentions : AnnotValue → ClassId → Prop where
  | cls (c : ClassId) : Mentions (.cls c) c
  | enumType (c : ClassId) (name : String) : Mentions (.enumConstant c name) c
  | nestedType (c : ClassId) (properties : List (String × AnnotValue)) :
      Mentions (.nested c properties) c
  | property {type c : ClassId} {properties : List (String × AnnotValue)} {name : String}
      {value : AnnotValue} :
      (name, value) ∈ properties → Mentions value c → Mentions (.nested type properties) c
  | item {items : List AnnotValue} {value : AnnotValue} {c : ClassId} :
      value ∈ items → Mentions value c → Mentions (.array items) c

mutual

lemma mentions_of_mem_types {c : ClassId} : ∀ value : AnnotValue, c ∈ value.types → value.Mentions c
  | .cls id, h => by
      rw [types, List.mem_singleton] at h
      exact h ▸ .cls c
  | .enumConstant enumType name, h => by
      rw [types, List.mem_singleton] at h
      exact h ▸ .enumType c name
  | .nested type properties, h => by
      rw [types, List.mem_cons] at h
      rcases h with rfl | h
      · exact .nestedType c properties
      · obtain ⟨name, value, hmem, hvalue⟩ := mentions_of_mem_propertyTypes properties h
        exact .property hmem hvalue
  | .array items, h => by
      rw [types] at h
      obtain ⟨value, hmem, hvalue⟩ := mentions_of_mem_listTypes items h
      exact .item hmem hvalue
  | .boolean _, h | .byte _, h | .char _, h | .short _, h | .int _, h | .long _, h
  | .float _, h | .double _, h | .string _, h => by simp [types] at h

lemma mentions_of_mem_propertyTypes {c : ClassId} : ∀ properties : List (String × AnnotValue),
    c ∈ propertyTypes properties → ∃ name value, (name, value) ∈ properties ∧ value.Mentions c
  | [], h => by simp [propertyTypes] at h
  | (name, value) :: rest, h => by
      rw [propertyTypes, List.mem_append] at h
      rcases h with h | h
      · exact ⟨name, value, List.mem_cons_self .., mentions_of_mem_types value h⟩
      · obtain ⟨name', value', hmem, hvalue⟩ := mentions_of_mem_propertyTypes rest h
        exact ⟨name', value', List.mem_cons_of_mem _ hmem, hvalue⟩

lemma mentions_of_mem_listTypes {c : ClassId} : ∀ items : List AnnotValue,
    c ∈ listTypes items → ∃ value ∈ items, value.Mentions c
  | [], h => by simp [listTypes] at h
  | value :: rest, h => by
      rw [listTypes, List.mem_append] at h
      rcases h with h | h
      · exact ⟨value, List.mem_cons_self .., mentions_of_mem_types value h⟩
      · obtain ⟨value', hmem, hvalue⟩ := mentions_of_mem_listTypes rest h
        exact ⟨value', List.mem_cons_of_mem _ hmem, hvalue⟩

end

lemma types_subset_propertyTypes {properties : List (String × AnnotValue)} {name : String}
    {value : AnnotValue} (h : (name, value) ∈ properties) :
    value.types ⊆ propertyTypes properties := by
  induction properties with
  | nil => cases h
  | cons p rest ih =>
      obtain ⟨name', value'⟩ := p
      rw [propertyTypes]
      rcases List.mem_cons.mp h with heq | h
      · cases heq
        exact List.subset_append_left _ _
      · exact List.subset_append_of_subset_right _ (ih h)

lemma types_subset_listTypes {items : List AnnotValue} {value : AnnotValue} (h : value ∈ items) :
    value.types ⊆ listTypes items := by
  induction items with
  | nil => cases h
  | cons value' rest ih =>
      rw [listTypes]
      rcases List.mem_cons.mp h with rfl | h
      · exact List.subset_append_left _ _
      · exact List.subset_append_of_subset_right _ (ih h)

lemma Mentions.mem_types {value : AnnotValue} {c : ClassId} (h : value.Mentions c) :
    c ∈ value.types := by
  induction h with
  | cls | enumType => simp [types]
  | nestedType => simp [types]
  | property hmem _ ih =>
      rw [types]
      exact List.mem_cons_of_mem _ (types_subset_propertyTypes hmem ih)
  | item hmem _ ih =>
      rw [types]
      exact types_subset_listTypes hmem ih

end AnnotValue

/-- The type of an annotation, or a class in one of its values. -/
inductive Annot.Mentions (x : Annot) : ClassId → Prop where
  | type : Mentions x x.type
  | property {name : String} {value : AnnotValue} {c : ClassId} :
      (name, value) ∈ x.properties → value.Mentions c → Mentions x c

lemma Annot.mem_memberTypes {x : Annot} {c : ClassId} :
    c ∈ x.memberTypes ↔ ∃ name value, (name, value) ∈ x.properties ∧ value.Mentions c := by
  constructor
  · exact AnnotValue.mentions_of_mem_propertyTypes x.properties
  · rintro ⟨name, value, hmem, hvalue⟩
    exact AnnotValue.types_subset_propertyTypes hmem hvalue.mem_types

/-! ## Positions -/

/-- A class is involved in a bound of a type parameter. -/
def Atlas.InBound (a : Atlas) (v : VarId) (c : ClassId) : Prop :=
  ∃ type ∈ (a.typeVar v).bounds, a.Involves type c

/-- The classes that stand in the signature or in the body of a code unit, its return type left
out. -/
inductive CodeUnit.Mentions (a : Atlas) (unit : CodeUnit) : ClassId → Prop where
  | access {i : AccessId} : i ∈ unit.accesses → Mentions a unit (a.access i).target.owner
  | parameter {p : Param} : p ∈ unit.parameters → Mentions a unit p.raw
  | parameterArgument {p : Param} {c : ClassId} :
      p ∈ unit.parameters → a.HasArgument p.type c → Mentions a unit c
  | parameterAnnot {p : Param} {x : Annot} {c : ClassId} :
      p ∈ unit.parameters → x ∈ p.annotations → x.Mentions c → Mentions a unit c
  | throws {c : ClassId} : c ∈ unit.throws → Mentions a unit c
  | catches {block : CatchBlock} {c : ClassId} :
      block ∈ unit.catchBlocks → c ∈ block.types → Mentions a unit c
  | instanceofCheck {use : TypeUse} : use ∈ unit.instanceofChecks → Mentions a unit use.target
  | classObject {use : TypeUse} : use ∈ unit.classObjects → Mentions a unit use.target
  | bound {v : VarId} {c : ClassId} :
      v ∈ unit.typeParameters → a.InBound v c → Mentions a unit c

/-- The class that the return type of a code unit erases to, or a class in its arguments. -/
def CodeUnit.InReturn (a : Atlas) (unit : CodeUnit) (c : ClassId) : Prop :=
  ∃ type raw, unit.returns = some type ∧ unit.rawReturns = some raw ∧
    (c = raw ∨ a.HasArgument type c)

namespace Atlas

/-- The classes that a class mentions. -/
inductive Mentions (a : Atlas) (o : ClassId) : ClassId → Prop where
  | supertype {type : TypeRef} :
      type ∈ (a.cls o).superclass.toList ++ (a.cls o).interfaces → Mentions a o (a.erasure type)
  | supertypeArgument {type : TypeRef} {c : ClassId} :
      type ∈ (a.cls o).superclass.toList ++ (a.cls o).interfaces → a.HasArgument type c →
      Mentions a o c
  | bound {v : VarId} {c : ClassId} :
      v ∈ (a.cls o).typeParameters → a.InBound v c → Mentions a o c
  | annotated {x : Annot} {c : ClassId} :
      x ∈ (a.cls o).annotations → x.Mentions c → Mentions a o c
  | memberAnnotated {m : MemberId} {x : Annot} {c : ClassId} :
      m ∈ (a.cls o).members → x ∈ (a.member m).annotations → x.Mentions c → Mentions a o c
  | field {m : MemberId} {type : TypeRef} {raw : ClassId} :
      m ∈ (a.cls o).members → (a.member m).body = .field type raw → Mentions a o raw
  | fieldArgument {m : MemberId} {type : TypeRef} {raw c : ClassId} :
      m ∈ (a.cls o).members → (a.member m).body = .field type raw → a.HasArgument type c →
      Mentions a o c
  | returns {m : MemberId} {unit : CodeUnit} {c : ClassId} :
      m ∈ (a.cls o).members → (a.member m).body = .code .method unit → unit.InReturn a c →
      Mentions a o c
  | code {m : MemberId} {kind : CodeKind} {unit : CodeUnit} {c : ClassId} :
      m ∈ (a.cls o).members → (a.member m).body = .code kind unit → unit.Mentions a c →
      Mentions a o c

/-! ## Lists of dependencies -/

variable {a : Atlas} {o : ClassId}

/-- Dependencies of one class, on exactly those classes with a property that it can depend on. -/
structure Collects (a : Atlas) (o : ClassId) (ds : List Dependency) (P : ClassId → Prop) :
    Prop where
  origin : ∀ d ∈ ds, d.origin = o
  target : ∀ t, (∃ d ∈ ds, d.target = t) ↔ P t ∧ t ≠ o ∧ (a.cls t).isPrimitive = false

namespace Collects

variable {ds es : List Dependency} {P Q : ClassId → Prop}

lemma congr (h : a.Collects o ds P) (hPQ : ∀ t, P t ↔ Q t) : a.Collects o ds Q :=
  ⟨h.origin, fun t => by rw [h.target, hPQ]⟩

lemma nil (hP : ∀ t, ¬ P t) : a.Collects o [] P :=
  ⟨by simp, fun t => by simp [hP t]⟩

lemma append (h : a.Collects o ds P) (h' : a.Collects o es Q) :
    a.Collects o (ds ++ es) fun t => P t ∨ Q t where
  origin d hd := (List.mem_append.mp hd).elim (h.origin d) (h'.origin d)
  target t := by
    simp only [List.mem_append, or_and_right, exists_or, h.target, h'.target]

lemma flatMap {α : Type} {xs : List α} {f : α → List Dependency} {R : α → ClassId → Prop}
    (h : ∀ x, a.Collects o (f x) (R x)) :
    a.Collects o (xs.flatMap f) fun t => ∃ x ∈ xs, R x t where
  origin d hd := by
    obtain ⟨x, -, hx⟩ := List.mem_flatMap.mp hd
    exact (h x).origin d hx
  target t := by
    constructor
    · rintro ⟨d, hd, rfl⟩
      obtain ⟨x, hmem, hx⟩ := List.mem_flatMap.mp hd
      obtain ⟨hR, hne⟩ := ((h x).target d.target).mp ⟨d, hx, rfl⟩
      exact ⟨⟨x, hmem, hR⟩, hne⟩
    · rintro ⟨⟨x, hmem, hR⟩, hne⟩
      obtain ⟨d, hd, ht⟩ := ((h x).target t).mpr ⟨hR, hne⟩
      exact ⟨d, List.mem_flatMap.mpr ⟨x, hmem, hd⟩, ht⟩

end Collects

lemma collects_dependOn (target : ClassId) (kind : DependencyKind) (line : ℕ) (words : String)
    (access : Option AccessId) :
    a.Collects o (a.dependOn o target kind line words access) fun t => t = target := by
  unfold dependOn
  split_ifs with h
  · refine ⟨by simp, fun t => ⟨by simp, ?_⟩⟩
    rintro ⟨rfl, hne, hprim⟩
    simp [hne, hprim] at h
  · rw [not_or, Bool.not_eq_true] at h
    refine ⟨by simp, fun t => ⟨?_, ?_⟩⟩
    · rintro ⟨d, hd, rfl⟩
      rw [List.mem_singleton.mp hd]
      exact ⟨rfl, h.1, h.2⟩
    · rintro ⟨rfl, -⟩
      exact ⟨_, List.mem_singleton_self _, rfl⟩

lemma collects_mention (kind : DependencyKind) (line : ℕ) (subject : String) (target : ClassId) :
    a.Collects o (a.mention o kind line subject target) fun t => t = target :=
  collects_dependOn ..

/-- Each class of a list is mentioned. -/
lemma collects_mentions (kind : DependencyKind) (line : ℕ) (subject : String)
    (targets : List ClassId) :
    a.Collects o (targets.flatMap (a.mention o kind line subject)) fun t => t ∈ targets :=
  (Collects.flatMap fun target => collects_mention kind line subject target).congr fun t => by simp

/-! ## Gathering, position by position -/

lemma collects_argumentDependencies (line : ℕ) (subject role : String) (type : TypeRef) :
    a.Collects o (a.argumentDependencies o line subject role type) (a.HasArgument type) :=
  (collects_mentions ..).congr fun _ => mem_argumentClasses

lemma collects_boundDependencies (line : ℕ) (subject : String) (parameters : List VarId) :
    a.Collects o (a.boundDependencies o line subject parameters)
      fun t => ∃ v ∈ parameters, a.InBound v t :=
  Collects.flatMap fun _ => Collects.flatMap fun _ =>
    (collects_mentions ..).congr fun _ => mem_involvedClasses

lemma collects_annotDependencies (line : ℕ) (subject : String) (annotations : List Annot) :
    a.Collects o (a.annotDependencies o line subject annotations)
      fun t => ∃ x ∈ annotations, x.Mentions t := by
  refine Collects.flatMap fun x =>
    ((collects_mention ..).append (collects_mentions ..)).congr fun t => ?_
  rw [Annot.mem_memberTypes]
  constructor
  · rintro (rfl | ⟨name, value, hmem, hvalue⟩)
    · exact .type
    · exact .property hmem hvalue
  · rintro (_ | ⟨hmem, hvalue⟩)
    · exact Or.inl rfl
    · exact Or.inr ⟨_, _, hmem, hvalue⟩

lemma collects_inheritanceDependencies : a.Collects o (a.inheritanceDependencies o) fun t =>
    ∃ type ∈ (a.cls o).superclass.toList ++ (a.cls o).interfaces,
      t = a.erasure type ∨ a.HasArgument type t := by
  unfold inheritanceDependencies
  refine ((Collects.flatMap fun type => (collects_mention ..).append
    (collects_argumentDependencies ..)).append (Collects.flatMap fun type =>
      (collects_mention ..).append (collects_argumentDependencies ..))).congr fun t => ?_
  simp only [List.mem_append, or_and_right, exists_or]

lemma collects_fieldDependencies (m : Member) (type : TypeRef) (raw : ClassId) :
    a.Collects o (a.fieldDependencies o m type raw) fun t =>
      (t = raw ∨ a.HasArgument type t) ∨ ∃ x ∈ m.annotations, x.Mentions t :=
  ((collects_mention ..).append (collects_argumentDependencies ..)).append
    (collects_annotDependencies ..)

lemma collects_parameterDependencies (line : ℕ) (subject : String) (p : Param) :
    a.Collects o (a.parameterDependencies o line subject p) fun t =>
      (t = p.raw ∨ a.HasArgument p.type t) ∨ ∃ x ∈ p.annotations, x.Mentions t :=
  ((collects_mention ..).append (collects_argumentDependencies ..)).append
    (collects_annotDependencies ..)

lemma collects_returnDependencies (m : Member) (unit : CodeUnit) :
    a.Collects o (a.returnDependencies o m unit) fun t =>
      m.isMethod = true ∧ unit.InReturn a t := by
  unfold returnDependencies
  split
  · rename_i type raw hm htype hraw
    refine ((collects_mention ..).append (collects_argumentDependencies ..)).congr fun t => ?_
    simp [hm, htype, hraw, CodeUnit.InReturn]
  · rename_i hno
    refine Collects.nil ?_
    rintro t ⟨hm, type, raw, htype, hraw, -⟩
    exact hno type raw hm htype hraw

lemma collects_codeUnitDependencies (m : Member) (unit : CodeUnit) :
    a.Collects o (a.codeUnitDependencies o m unit) fun t =>
      unit.Mentions a t ∨ (m.isMethod = true ∧ unit.InReturn a t) ∨
        ∃ x ∈ m.annotations, x.Mentions t := by
  unfold codeUnitDependencies
  refine ((((((((Collects.flatMap fun _ => collects_dependOn ..).append
    (collects_returnDependencies m unit)).append
    (Collects.flatMap fun _ => collects_parameterDependencies ..)).append
    (collects_mentions ..)).append
    (Collects.flatMap fun _ => collects_mentions ..)).append
    (Collects.flatMap fun _ => collects_mention ..)).append
    (Collects.flatMap fun _ => collects_mention ..)).append
    (collects_boundDependencies ..)).append
    (collects_annotDependencies ..) |>.congr fun t => ?_
  constructor
  · rintro ((((((((⟨i, hi, rfl⟩ | h) | ⟨p, hp, (rfl | h) | ⟨x, hx, h⟩⟩) | h) | ⟨block, hb, h⟩) |
      ⟨use, hu, rfl⟩) | ⟨use, hu, rfl⟩) | ⟨v, hv, h⟩) | h)
    · exact .inl (.access hi)
    · exact .inr (.inl h)
    · exact .inl (.parameter hp)
    · exact .inl (.parameterArgument hp h)
    · exact .inl (.parameterAnnot hp hx h)
    · exact .inl (.throws h)
    · exact .inl (.catches hb h)
    · exact .inl (.instanceofCheck hu)
    · exact .inl (.classObject hu)
    · exact .inl (.bound hv h)
    · exact .inr (.inr h)
  · rintro (h | h | h)
    · cases h <;> grind
    · grind
    · grind

lemma collects_memberDependencies (m : MemberId) :
    a.Collects o (a.memberDependencies o m) fun t =>
      (∃ x ∈ (a.member m).annotations, x.Mentions t) ∨
      (∃ type raw, (a.member m).body = .field type raw ∧ (t = raw ∨ a.HasArgument type t)) ∨
      (∃ kind unit, (a.member m).body = .code kind unit ∧ unit.Mentions a t) ∨
      ∃ unit, (a.member m).body = .code .method unit ∧ unit.InReturn a t := by
  unfold memberDependencies
  dsimp only
  rcases hbody : (a.member m).body with ⟨type, raw⟩ | ⟨kind, unit⟩
  · refine (collects_fieldDependencies ..).congr fun t => ?_
    simp only [MemberBody.field.injEq, reduceCtorEq, false_and, exists_false, or_false]
    grind
  · have hmethod : (a.member m).isMethod = true ↔ kind = .method := by
      simp [Member.isMethod, Member.codeKind?, hbody]
    refine (collects_codeUnitDependencies ..).congr fun t => ?_
    rw [hmethod]
    simp only [MemberBody.code.injEq, reduceCtorEq, false_and, exists_false]
    grind

/-- Everything that is gathered for a class. -/
lemma collects_mentions_of_class : a.Collects o (a.mentions o) (a.Mentions o) := by
  unfold mentions
  refine (((collects_inheritanceDependencies.append (collects_boundDependencies ..)).append
    (collects_annotDependencies ..)).append
    (Collects.flatMap fun _ => collects_memberDependencies _)).congr fun t => ?_
  constructor
  · rintro (((⟨type, htype, rfl | h⟩ | ⟨v, hv, h⟩) | ⟨x, hx, h⟩) | ⟨m, hm, ⟨x, hx, h⟩ |
      ⟨type, raw, hbody, rfl | h⟩ | ⟨kind, unit, hbody, h⟩ |
      ⟨unit, hbody, h⟩⟩)
    · exact .supertype htype
    · exact .supertypeArgument htype h
    · exact .bound hv h
    · exact .annotated hx h
    · exact .memberAnnotated hm hx h
    · exact .field hm hbody
    · exact .fieldArgument hm hbody h
    · exact .code hm hbody h
    · exact .returns hm hbody h
  · intro h
    cases h <;> grind

lemma ascending_dependenciesFrom (a : Atlas) (o : ClassId) :
    Dependency.Ascending (a.dependenciesFrom o) :=
  Dependency.ascending_set _

lemma collects_dependenciesFrom (a : Atlas) (o : ClassId) :
    a.Collects o (a.dependenciesFrom o) (a.Mentions o) where
  origin d hd := collects_mentions_of_class.origin d (Dependency.mem_of_mem_set hd)
  target t := by
    rw [← collects_mentions_of_class.target]
    constructor
    · rintro ⟨d, hd, ht⟩
      exact ⟨d, Dependency.mem_of_mem_set hd, ht⟩
    · rintro ⟨d, hd, rfl⟩
      obtain ⟨e, he, hkey⟩ := Dependency.exists_mem_set hd
      exact ⟨e, he, congrArg (fun key => key.2.2.2) hkey⟩

/-- A class without supertypes, type parameters, members and annotations mentions nothing. -/
lemma not_mentions_of_stub {t : ClassId} (ho : (a.cls o).Stub) : ¬ a.Mentions o t := by
  intro h
  cases h <;>
    simp_all [ho.superclass, ho.interfaces, ho.typeParameters, ho.members, ho.annotations]

lemma not_mem_dependenciesFrom (ho : (a.cls o).Stub) (d : Dependency) :
    d ∉ a.dependenciesFrom o := by
  intro hd
  have hmentions := ((collects_dependenciesFrom a o).target d.target).mp ⟨d, hd, rfl⟩
  exact not_mentions_of_stub ho hmentions.1

/-- An access to another class is one of the dependencies, with its line. -/
lemma exists_dependency_of_access {x : Access} (hx : x ∈ a.accessesFromClass o)
    (hne : x.target.owner ≠ o) (hprim : (a.cls x.target.owner).isPrimitive = false) :
    ∃ d ∈ a.dependenciesFrom o, d.target = x.target.owner ∧ d.line = x.line := by
  obtain ⟨m, hm, hx⟩ := List.mem_flatMap.mp hx
  obtain ⟨hmember, hunit⟩ := List.mem_filter.mp hm
  rcases hbody : (a.member m).body with ⟨type, raw⟩ | ⟨kind, unit⟩
  · simp [Member.codeUnit?, hbody] at hunit
  rw [accessesFrom, Member.codeUnit?, hbody] at hx
  obtain ⟨i, hi, rfl⟩ := List.mem_map.mp hx
  obtain ⟨d, hd, htarget, hline⟩ : ∃ d ∈ a.accessDependencies o (a.member m) i,
      d.target = (a.access i).target.owner ∧ d.line = (a.access i).line := by
    simp [accessDependencies, dependOn, hne, hprim]
  have hmention : d ∈ a.mentions o := by
    refine List.mem_append_right _ (List.mem_flatMap.mpr ⟨m, hmember, ?_⟩)
    simp only [memberDependencies, hbody, codeUnitDependencies, List.append_assoc]
    exact List.mem_append_left _ (List.mem_flatMap.mpr ⟨i, hi, hd⟩)
  obtain ⟨e, he, hkey⟩ := Dependency.exists_mem_set hmention
  have htarget' : e.target = d.target := congrArg (fun key => key.2.2.2) hkey
  have hline' : e.line = d.line := congrArg Prod.fst hkey
  exact ⟨e, he, htarget'.trans htarget, hline'.trans hline⟩

/-- **A class depends on exactly the classes that it mentions**, but not on itself and not on
primitive types.  Its dependencies are in order, and no access to another class is lost. -/
theorem targets_dependenciesFrom (a : Atlas) (o : ClassId) :
    Dependency.Ascending (a.dependenciesFrom o) ∧
    (∀ d ∈ a.dependenciesFrom o, d.origin = o) ∧
    (∀ t, (∃ d ∈ a.dependenciesFrom o, d.target = t) ↔
      a.Mentions o t ∧ t ≠ o ∧ (a.cls t).isPrimitive = false) ∧
    ∀ x ∈ a.accessesFromClass o, x.target.owner ≠ o →
      (a.cls x.target.owner).isPrimitive = false →
      ∃ d ∈ a.dependenciesFrom o, d.target = x.target.owner ∧ d.line = x.line :=
  ⟨ascending_dependenciesFrom a o, (collects_dependenciesFrom a o).origin,
    (collects_dependenciesFrom a o).target, fun _ => exists_dependency_of_access⟩

end Atlas

end ClassAtlas
