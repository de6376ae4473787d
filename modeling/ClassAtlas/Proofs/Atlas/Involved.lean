import ClassAtlas.Atlas.Types
import ClassAtlas.Proofs.Atlas.Interning
import ClassAtlas.Proofs.Search.Reachability

/-!
# The classes of a type

`Atlas.classesOf` walks through types and opens the bounds of every type variable that it meets,
each once, so it ends on variables that are bounded by themselves.

* `Atlas.Involves` — a class stands in a type, or in a bound of a variable in it, at any depth.
* `Atlas.mem_classesOf` — **the walk finds exactly these classes**.
* `Atlas.HasArgument`, `Atlas.mem_argumentClasses` — the same for the arguments of a type.

While the walk is going on, some variables that it met are still being opened.  So the invariant of
a walk (`Opens`) speaks of the variables that it adds: what stands in their bounds has been met.
-/

namespace ClassAtlas.Atlas

variable {a : Atlas}

/-- A class stands in a type, or in a bound of a type variable in it. -/
inductive Involves (a : Atlas) : TypeRef → ClassId → Prop where
  | cls (c : ClassId) : Involves a (.cls c) c
  | raw (c : ClassId) (arguments : List TypeRef) : Involves a (.parameterized c arguments) c
  | argument {raw c : ClassId} {arguments : List TypeRef} {type : TypeRef} :
      type ∈ arguments → Involves a type c → Involves a (.parameterized raw arguments) c
  | bound {v : VarId} {type : TypeRef} {c : ClassId} :
      type ∈ (a.typeVar v).bounds → Involves a type c → Involves a (.variable v) c
  | upper {upper lower : List TypeRef} {type : TypeRef} {c : ClassId} :
      type ∈ upper → Involves a type c → Involves a (.wildcard upper lower) c
  | lower {upper lower : List TypeRef} {type : TypeRef} {c : ClassId} :
      type ∈ lower → Involves a type c → Involves a (.wildcard upper lower) c
  | component {type : TypeRef} {erasure c : ClassId} :
      Involves a type c → Involves a (.genericArray type erasure) c

/-! ## What has been met -/

namespace Met

variable {met met' : Met}

mutual

/-- All classes and variables in a type have been met. -/
def Covers (met : Met) : TypeRef → Prop
  | .cls id => id ∈ met.classes
  | .parameterized raw arguments => raw ∈ met.classes ∧ met.CoversAll arguments
  | .variable id => id ∈ met.typeVars
  | .wildcard upper lower => met.CoversAll upper ∧ met.CoversAll lower
  | .genericArray component _ => met.Covers component

def CoversAll (met : Met) : List TypeRef → Prop
  | [] => True
  | type :: types => met.Covers type ∧ met.CoversAll types

end

lemma coversAll_iff {types : List TypeRef} :
    met.CoversAll types ↔ ∀ type ∈ types, met.Covers type := by
  induction types with
  | nil => simp [CoversAll]
  | cons type types ih => simp [CoversAll, ih]

/-- More has been met. -/
structure Within (met met' : Met) : Prop where
  classes : met.classes ⊆ met'.classes
  typeVars : met.typeVars ⊆ met'.typeVars

lemma Within.trans {met'' : Met} (h : Within met met') (h' : Within met' met'') :
    Within met met'' :=
  ⟨List.Subset.trans h.classes h'.classes, List.Subset.trans h.typeVars h'.typeVars⟩

mutual

lemma Covers.mono (h : Within met met') : ∀ type : TypeRef, met.Covers type → met'.Covers type
  | .cls _, hc => h.classes hc
  | .parameterized _ arguments, hc => ⟨h.classes hc.1, CoversAll.mono h arguments hc.2⟩
  | .variable _, hc => h.typeVars hc
  | .wildcard upper lower, hc => ⟨CoversAll.mono h upper hc.1, CoversAll.mono h lower hc.2⟩
  | .genericArray component _, hc => Covers.mono h component hc

lemma CoversAll.mono (h : Within met met') :
    ∀ types : List TypeRef, met.CoversAll types → met'.CoversAll types
  | [], _ => trivial
  | type :: types, hc => ⟨Covers.mono h type hc.1, CoversAll.mono h types hc.2⟩

end

lemma mem_addClass {id c : ClassId} : c ∈ (met.addClass id).classes ↔ c ∈ met.classes ∨ c = id := by
  unfold addClass
  split_ifs with h
  · simpa using fun heq => heq ▸ h
  · simp

lemma typeVars_addClass (id : ClassId) : (met.addClass id).typeVars = met.typeVars := by
  unfold addClass
  split_ifs <;> rfl

/-- A set of variables that is closed under opening bounds covers every class that is involved. -/
lemma mem_of_involves (hopen : ∀ v ∈ met.typeVars, ∀ type ∈ (a.typeVar v).bounds, met.Covers type)
    {type : TypeRef} {c : ClassId} (h : a.Involves type c) (hc : met.Covers type) :
    c ∈ met.classes := by
  induction h with
  | cls => exact hc
  | raw => exact hc.1
  | argument hmem _ ih => exact ih (coversAll_iff.mp hc.2 _ hmem)
  | bound hmem _ ih => exact ih (hopen _ hc _ hmem)
  | upper hmem _ ih => exact ih (coversAll_iff.mp hc.1 _ hmem)
  | lower hmem _ ih => exact ih (coversAll_iff.mp hc.2 _ hmem)
  | component _ ih => exact ih hc

end Met

/-! ## The walk -/

/-- What a walk through types does to what has been met. -/
structure Opens (a : Atlas) (types : List TypeRef) (met met' : Met) : Prop where
  within : met.Within met'
  sound : ∀ c ∈ met'.classes, c ∈ met.classes ∨ ∃ type ∈ types, a.Involves type c
  covers : met'.CoversAll types
  opened : ∀ v ∈ met'.typeVars, v ∉ met.typeVars →
    ∀ type ∈ (a.typeVar v).bounds, met'.Covers type

namespace Opens

variable {types types' : List TypeRef} {met met' met'' : Met}

lemma nil (met : Met) : a.Opens [] met met where
  within := ⟨List.Subset.refl _, List.Subset.refl _⟩
  sound _ hc := Or.inl hc
  covers := trivial
  opened _ hv hnew := absurd hv hnew

lemma append (h : a.Opens types met met') (h' : a.Opens types' met' met'') :
    a.Opens (types ++ types') met met'' where
  within := h.within.trans h'.within
  sound c hc := by
    rcases h'.sound c hc with hc | ⟨type, hmem, hinv⟩
    · refine (h.sound c hc).imp_right ?_
      rintro ⟨type, hmem, hinv⟩
      exact ⟨type, List.mem_append_left _ hmem, hinv⟩
    · exact Or.inr ⟨type, List.mem_append_right _ hmem, hinv⟩
  covers := by
    refine Met.coversAll_iff.mpr fun type hmem => ?_
    rcases List.mem_append.mp hmem with hmem | hmem
    · exact (Met.coversAll_iff.mp h.covers type hmem).mono h'.within _
    · exact Met.coversAll_iff.mp h'.covers type hmem
  opened v hv hnew type hmem := by
    by_cases hmid : v ∈ met'.typeVars
    · exact (h.opened v hmid hnew type hmem).mono h'.within _
    · exact h'.opened v hv hmid type hmem

/-- A type is walked through by walking through its parts. -/
lemma of_parts {type : TypeRef} (h : a.Opens types met met')
    (hinvolves : ∀ part ∈ types, ∀ c, a.Involves part c → a.Involves type c)
    (hcovers : met'.CoversAll types → met'.Covers type) : a.Opens [type] met met' where
  within := h.within
  sound c hc := by
    refine (h.sound c hc).imp_right ?_
    rintro ⟨part, hmem, hinv⟩
    exact ⟨type, List.mem_singleton_self _, hinvolves part hmem c hinv⟩
  covers := ⟨hcovers h.covers, trivial⟩
  opened := h.opened

lemma addClass (met : Met) (id : ClassId) : a.Opens [.cls id] met (met.addClass id) where
  within := ⟨fun c hc => Met.mem_addClass.mpr (Or.inl hc), by rw [Met.typeVars_addClass]; simp⟩
  sound c hc := by
    refine (Met.mem_addClass.mp hc).imp_right ?_
    rintro rfl
    exact ⟨_, List.mem_singleton_self _, .cls c⟩
  covers := ⟨Met.mem_addClass.mpr (Or.inr rfl), trivial⟩
  opened v hv hnew := absurd (Met.typeVars_addClass id ▸ hv) hnew

end Opens

/-- The type variables of an atlas. -/
def varIds (a : Atlas) : Finset VarId :=
  (Finset.range a.typeVars.size).image VarId.mk

lemma mem_varIds {v : VarId} (h : (a.typeVar v).bounds ≠ []) : v ∈ a.varIds := by
  refine Finset.mem_image.mpr ⟨v.index, Finset.mem_range.mpr (lt_of_not_ge fun hv => h ?_), rfl⟩
  rw [typeVar_eq_default hv]
  rfl

lemma card_varIds_le : a.varIds.card ≤ a.typeVars.size :=
  Finset.card_image_le.trans (Finset.card_range _).le

/-- Walks that are at most `n` variables deep open what they meet. -/
def OpensVariables (a : Atlas) (n : ℕ) : Prop :=
  ∀ (v : VarId) (met : Met), Search.Room a.varIds n met.typeVars →
    a.Opens [.variable v] met (a.meetVariable n v met)

mutual

lemma opens_meetType {n : ℕ} (hvar : a.OpensVariables n) :
    ∀ (type : TypeRef) (met : Met), Search.Room a.varIds n met.typeVars →
      a.Opens [type] met (meetType (a.meetVariable n) type met)
  | .cls id, met, _ => by
      rw [meetType]
      exact Opens.addClass met id
  | .parameterized raw arguments, met, hroom => by
      rw [meetType]
      have hraw := Opens.addClass (a := a) met raw
      have hall := hraw.append
        (opens_meetTypes hvar arguments _ fun _ => hroom.mono hraw.within.typeVars)
      refine hall.of_parts ?_ id
      rintro part hpart c hinv
      rcases List.mem_cons.mp hpart with rfl | hpart
      · cases hinv
        exact .raw _ _
      · exact .argument hpart hinv
  | .variable v, met, hroom => by
      rw [meetType]
      exact hvar v met hroom
  | .wildcard upper lower, met, hroom => by
      rw [meetType]
      have hupper := opens_meetTypes hvar upper met fun _ => hroom
      have hall := hupper.append
        (opens_meetTypes hvar lower _ fun _ => hroom.mono hupper.within.typeVars)
      refine hall.of_parts ?_ ?_
      · intro part hpart c hinv
        rcases List.mem_append.mp hpart with hpart | hpart
        · exact .upper hpart hinv
        · exact .lower hpart hinv
      · intro hcovers
        simpa only [Met.Covers, Met.coversAll_iff, List.forall_mem_append] using hcovers
  | .genericArray component erasure, met, hroom => by
      rw [meetType]
      refine (opens_meetType hvar component met hroom).of_parts ?_ And.left
      rintro part hpart c hinv
      rw [List.mem_singleton.mp hpart] at hinv
      exact .component hinv

lemma opens_meetTypes {n : ℕ} (hvar : a.OpensVariables n) :
    ∀ (types : List TypeRef) (met : Met),
      (types ≠ [] → Search.Room a.varIds n met.typeVars) →
      a.Opens types met (meetTypes (a.meetVariable n) types met)
  | [], met, _ => by
      rw [meetTypes]
      exact Opens.nil met
  | type :: types, met, hroom => by
      rw [meetTypes]
      have hroom := hroom (List.cons_ne_nil _ _)
      have htype := opens_meetType hvar type met hroom
      exact htype.append (opens_meetTypes hvar types _ fun _ => hroom.mono htype.within.typeVars)

end

/-- A variable is opened once, and what stands in its bounds is met. -/
lemma opens_meetVariable : ∀ n : ℕ, a.OpensVariables n
  | 0, _, _, hroom => absurd hroom (Nat.not_lt_zero _)
  | n + 1, v, met, hroom => by
      rw [meetVariable]
      split_ifs with hv
      · exact { Opens.nil met with
          sound := fun _ => Or.inl
          covers := ⟨hv, trivial⟩ }
      -- the variable is met first, and then what its bounds mention
      have hbounds := opens_meetTypes (opens_meetVariable n) (a.typeVar v).bounds
        { met with typeVars := met.typeVars ++ [v] } fun hne =>
          (hroom.cons (mem_varIds hne) hv).mono (by simp)
      refine ⟨⟨hbounds.within.classes, fun w hw => hbounds.within.typeVars (by simp [hw])⟩,
        fun c hc => ?_, ⟨hbounds.within.typeVars (by simp), trivial⟩, fun w hw hnew => ?_⟩
      · refine (hbounds.sound c hc).imp_right ?_
        rintro ⟨type, hmem, hinv⟩
        exact ⟨_, List.mem_singleton_self _, .bound hmem hinv⟩
      · by_cases hwv : w = v
        · rw [hwv]
          exact Met.coversAll_iff.mp hbounds.covers
        · exact hbounds.opened w hw (by simp [hnew, hwv])

/-- **The walk through types finds exactly the classes that they involve.** -/
theorem mem_classesOf {types : List TypeRef} {c : ClassId} :
    c ∈ a.classesOf types ↔ ∃ type ∈ types, a.Involves type c := by
  have hroom : Search.Room a.varIds (a.typeVars.size + 1) ({} : Met).typeVars :=
    Search.room_nil card_varIds_le
  have h := opens_meetTypes (opens_meetVariable _) types {} fun _ => hroom
  constructor
  · intro hc
    exact (h.sound c hc).resolve_left List.not_mem_nil
  · rintro ⟨type, hmem, hinv⟩
    refine Met.mem_of_involves (fun v hv => h.opened v hv List.not_mem_nil) hinv ?_
    exact Met.coversAll_iff.mp h.covers type hmem

lemma mem_involvedClasses {type : TypeRef} {c : ClassId} :
    c ∈ a.involvedClasses type ↔ a.Involves type c := by
  simp [involvedClasses, mem_classesOf]

/-! ## Arguments -/

/-- A class stands in an argument of a type, where an array has the arguments of its component. -/
inductive HasArgument (a : Atlas) : TypeRef → ClassId → Prop where
  | argument {raw c : ClassId} {arguments : List TypeRef} {type : TypeRef} :
      type ∈ arguments → a.Involves type c → HasArgument a (.parameterized raw arguments) c
  | component {type : TypeRef} {erasure c : ClassId} :
      HasArgument a type c → HasArgument a (.genericArray type erasure) c

lemma mem_argumentClasses {type : TypeRef} {c : ClassId} :
    c ∈ a.argumentClasses type ↔ a.HasArgument type c := by
  constructor
  · intro hc
    fun_induction argumentClasses a type with
    | case1 raw arguments =>
        obtain ⟨type, hmem, hinv⟩ := mem_classesOf.mp hc
        exact .argument hmem hinv
    | case2 component erasure ih => exact .component (ih hc)
    | case3 => cases hc
  · intro h
    induction h with
    | argument hmem hinv => exact mem_classesOf.mpr ⟨_, hmem, hinv⟩
    | component _ ih => exact ih

end ClassAtlas.Atlas
