import ClassAtlas.Proofs.Atlas.Changes

/-!
# Generic arrays

A generic array keeps the class that it erases to, as found when the type was linked.  What its
component erases to may change afterwards, when a variable gets bounds.

* `TypeRef.Inside` — a type stands in another one, at any depth.
* `Atlas.Arrays` — every generic array in a type keeps the array of what its component erases to.
* `Atlas.erasure_congr` — erasures depend on the bounds of variables and on nothing else.
* `Atlas.Signs` — the types of superclasses, interfaces and members.
* `Atlas.before` — the atlas without a variable and those that come after it.
* `Atlas.erasure_before` — it does for what is erased through earlier variables only.
* `Atlas.Settled` — **generic arrays are right in signatures**, and in the bounds of a variable they
  are as its atlas was **before** it.
* `Atlas.Settled.modifyMember`, `Atlas.BoundArrays.setBounds` and the like — how changes keep that.
-/

namespace ClassAtlas

namespace TypeRef

/-- A type is another one or stands in it, at any depth. -/
inductive Inside (type : TypeRef) : TypeRef → Prop
  | self : Inside type type
  | argument {raw : ClassId} {arguments : List TypeRef} {x : TypeRef} (hx : x ∈ arguments)
      (h : Inside type x) : Inside type (.parameterized raw arguments)
  | upper {upper lower : List TypeRef} {x : TypeRef} (hx : x ∈ upper) (h : Inside type x) :
      Inside type (.wildcard upper lower)
  | lower {upper lower : List TypeRef} {x : TypeRef} (hx : x ∈ lower) (h : Inside type x) :
      Inside type (.wildcard upper lower)
  | component {component : TypeRef} {erasure : ClassId} (h : Inside type component) :
      Inside type (.genericArray component erasure)

lemma Inside.trans {x y type : TypeRef} (hx : Inside x y) (hy : Inside y type) :
    Inside x type := by
  induction hy with
  | self => exact hx
  | argument hmem _ ih => exact .argument hmem ih
  | upper hmem _ ih => exact .upper hmem ih
  | lower hmem _ ih => exact .lower hmem ih
  | component _ ih => exact .component ih

/-- The positions in a part of a type are positions in the type. -/
lemma Inside.within {classes vars : ℕ} {x type : TypeRef} (h : Inside x type) :
    type.Within classes vars → x.Within classes vars := by
  induction h with
  | self => exact id
  | argument hx _ ih => exact fun ht => ih (allWithin_iff.mp ht.2 _ hx)
  | upper hx _ ih => exact fun ht => ih (allWithin_iff.mp ht.1 _ hx)
  | lower hx _ ih => exact fun ht => ih (allWithin_iff.mp ht.2 _ hx)
  | component _ ih => exact fun ht => ih ht.1

end TypeRef

/-- The types in the signature of a member. -/
def Member.signatureTypes (m : Member) : List TypeRef :=
  match m.body with
  | .field type _ => [type]
  | .code _ unit => unit.returns.toList ++ unit.parameters.map (·.type)

lemma Member.signatureTypes_modifyCodeUnit (m : Member) {change : CodeUnit → CodeUnit}
    (hreturns : ∀ u, (change u).returns = u.returns)
    (hparameters : ∀ u, (change u).parameters = u.parameters) :
    (m.modifyCodeUnit change).signatureTypes = m.signatureTypes := by
  rcases hbody : m.body with ⟨type, raw⟩ | ⟨kind, unit⟩
  · simp [Member.modifyCodeUnit, hbody]
  · simp [Member.modifyCodeUnit, Member.signatureTypes, hbody, hreturns, hparameters]

namespace Atlas

variable {a a' : Atlas}

/-! ## Arrays in a type -/

/-- Every generic array in a type keeps the array of what its component erases to. -/
def Arrays (a : Atlas) (type : TypeRef) : Prop :=
  ∀ component array, TypeRef.Inside (.genericArray component array) type →
    (a.cls array).component = some (a.erasure component)

lemma arrays_cls (id : ClassId) : a.Arrays (.cls id) := by
  intro component array h
  cases h

lemma arrays_variable (v : VarId) : a.Arrays (.variable v) := by
  intro component array h
  cases h

lemma arrays_parameterized (raw : ClassId) {arguments : List TypeRef}
    (h : ∀ x ∈ arguments, a.Arrays x) : a.Arrays (.parameterized raw arguments) := by
  intro component array hinside
  cases hinside with
  | argument hx hinside => exact h _ hx component array hinside

lemma arrays_wildcard {upper lower : List TypeRef} (hupper : ∀ x ∈ upper, a.Arrays x)
    (hlower : ∀ x ∈ lower, a.Arrays x) : a.Arrays (.wildcard upper lower) := by
  intro component array hinside
  cases hinside with
  | upper hx hinside => exact hupper _ hx component array hinside
  | lower hx hinside => exact hlower _ hx component array hinside

lemma arrays_genericArray {component : TypeRef} {array : ClassId} (h : a.Arrays component)
    (harray : (a.cls array).component = some (a.erasure component)) :
    a.Arrays (.genericArray component array) := by
  intro component' array' hinside
  cases hinside with
  | self => exact harray
  | component hinside => exact h component' array' hinside

/-- Erasures depend on the bounds of variables and on nothing else. -/
lemma erasureWithin_congr (h : ∀ v, (a'.typeVar v).bounds = (a.typeVar v).bounds) :
    ∀ (n : ℕ) (type : TypeRef), a'.erasureWithin n type = a.erasureWithin n type
  | 0, _ => rfl
  | n + 1, .cls _ => rfl
  | n + 1, .parameterized _ _ => rfl
  | n + 1, .genericArray _ _ => rfl
  | n + 1, .variable v => by
      simp only [erasureWithin, h]
      rcases (a.typeVar v).bounds with _ | ⟨bound, _⟩
      · rfl
      · exact erasureWithin_congr h n bound
  | n + 1, .wildcard [] _ => rfl
  | n + 1, .wildcard (bound :: _) _ => erasureWithin_congr h n bound

lemma erasure_congr (h : ∀ v, (a'.typeVar v).bounds = (a.typeVar v).bounds) (type : TypeRef) :
    a'.erasure type = a.erasure type :=
  erasureWithin_congr h 33 type

/-- Components are those that were there before. -/
def KeepsComponents (a a' : Atlas) : Prop :=
  ∀ c d, (a.cls c).component = some d → (a'.cls c).component = some d

/-- Arrays stay right as long as the parts of a type erase to the same classes. -/
lemma Arrays.of_erasure {type : TypeRef} (h : a.Arrays type) (hcomponent : a.KeepsComponents a')
    (herasure : ∀ x, TypeRef.Inside x type → a'.erasure x = a.erasure x) : a'.Arrays type := by
  intro component array hinside
  have hpart : TypeRef.Inside component type :=
    TypeRef.Inside.trans (.component .self) hinside
  rw [herasure component hpart]
  exact hcomponent _ _ (h component array hinside)

lemma Arrays.of_bounds {type : TypeRef} (h : a.Arrays type) (hcomponent : a.KeepsComponents a')
    (hbounds : ∀ v, (a'.typeVar v).bounds = (a.typeVar v).bounds) : a'.Arrays type :=
  h.of_erasure hcomponent fun x _ => erasure_congr hbounds x

/-! ## Bounds -/

/-- The atlas without a variable and those that come after it. -/
def before (a : Atlas) (v : VarId) : Atlas :=
  { a with typeVars := a.typeVars.take v.index }

/-- A variable that was taken away has no bounds. -/
lemma bounds_before (a : Atlas) (v w : VarId) :
    ((a.before v).typeVar w).bounds = if w.index < v.index then (a.typeVar w).bounds else [] := by
  rcases lt_or_ge w.index v.index with hw | hw
  · rw [if_pos hw]
    by_cases hsize : w.index < a.typeVars.size <;>
      simp [before, typeVar, hw, hsize]
  · rw [if_neg (not_lt.mpr hw), typeVar_eq_default]
    · rfl
    · simp [before, hw]

/-- Bounds that stay, stay without the later variables. -/
lemma bounds_before_congr (hbounds : ∀ v, (a'.typeVar v).bounds = (a.typeVar v).bounds)
    (v w : VarId) : ((a'.before v).typeVar w).bounds = ((a.before v).typeVar w).bounds := by
  rw [bounds_before, bounds_before, hbounds]

/-- A variable is met on the way from a type to its erasure. -/
inductive Meets (a : Atlas) (v : VarId) : TypeRef → Prop
  | self : a.Meets v (.variable v)
  | bound {w : VarId} {type : TypeRef} {types : List TypeRef}
      (hbounds : (a.typeVar w).bounds = type :: types) (h : a.Meets v type) :
      a.Meets v (.variable w)
  | upper {type : TypeRef} {upper lower : List TypeRef} (h : a.Meets v type) :
      a.Meets v (.wildcard (type :: upper) lower)

lemma erasureWithin_before {v : VarId} : ∀ (n : ℕ) (type : TypeRef),
    (∀ w, a.Meets w type → w.index < v.index) →
      (a.before v).erasureWithin n type = a.erasureWithin n type
  | 0, _, _ => rfl
  | n + 1, .cls _, _ => rfl
  | n + 1, .parameterized _ _, _ => rfl
  | n + 1, .genericArray _ _, _ => rfl
  | n + 1, .variable w, h => by
      simp only [erasureWithin, bounds_before, if_pos (h w .self)]
      rcases hbounds : (a.typeVar w).bounds with _ | ⟨bound, _⟩
      · rfl
      · exact erasureWithin_before n bound fun x hx => h x (.bound hbounds hx)
  | n + 1, .wildcard [] _, _ => rfl
  | n + 1, .wildcard (bound :: _) _, h =>
      erasureWithin_before n bound fun x hx => h x (.upper hx)

/-- What is erased through earlier variables only needs no later ones. -/
lemma erasure_before {v : VarId} {type : TypeRef} (h : ∀ w, a.Meets w type → w.index < v.index) :
    (a.before v).erasure type = a.erasure type :=
  erasureWithin_before 33 type h

/-- A variable erases to the class that its first bound names. -/
lemma erasure_of_bounds {v : VarId} {raw : ClassId} {arguments types : List TypeRef}
    (h : (a.typeVar v).bounds = .parameterized raw arguments :: types) :
    a.erasure (.variable v) = raw := by
  simp [erasure, erasureWithin, h]

/-- Before it has bounds, a variable erases to the topmost class. -/
lemma erasure_before_self (a : Atlas) (v : VarId) :
    (a.before v).erasure (.variable v) = object := by
  simp [erasure, erasureWithin, bounds_before]

/-- No variable has bounds from a position on. -/
def Unbounded (a : Atlas) (n : ℕ) : Prop :=
  ∀ v : VarId, n ≤ v.index → (a.typeVar v).bounds = []

lemma unbounded_size (a : Atlas) : a.Unbounded a.typeVars.size := by
  intro v hv
  rw [typeVar_eq_default hv]
  rfl

lemma Unbounded.mono {n m : ℕ} (h : a.Unbounded n) (hnm : n ≤ m) : a.Unbounded m :=
  fun v hv => h v (hnm.trans hv)

lemma Unbounded.of_bounds {n : ℕ} (h : a.Unbounded n)
    (hbounds : ∀ v, (a'.typeVar v).bounds = (a.typeVar v).bounds) : a'.Unbounded n :=
  fun v hv => (hbounds v).trans (h v hv)

lemma Unbounded.setBounds {n : ℕ} (h : a.Unbounded n) {v : VarId} (hv : v.index < n)
    (types : List TypeRef) : (a.setBounds v types).Unbounded n := by
  intro w hw
  rw [typeVar_setBounds, if_neg]
  · exact h w hw
  · rintro ⟨rfl, -⟩
    omega

/-- In the bounds of a variable, generic arrays are right before it. -/
def BoundArrays (a : Atlas) : Prop :=
  ∀ v, ∀ bound ∈ (a.typeVar v).bounds, (a.before v).Arrays bound

lemma BoundArrays.of_bounds (h : a.BoundArrays) (hcomponent : a.KeepsComponents a')
    (hbounds : ∀ v, (a'.typeVar v).bounds = (a.typeVar v).bounds) : a'.BoundArrays := by
  intro v bound hbound
  rw [hbounds] at hbound
  exact (h v bound hbound).of_bounds hcomponent (bounds_before_congr hbounds v)

lemma boundArrays_of_unbounded (h : a.Unbounded 0) : a.BoundArrays := by
  intro v bound hbound
  rw [h v (Nat.zero_le _)] at hbound
  cases hbound

/-- **Variables get their bounds in order**: the bounds of one do not change what the bounds of
those before it are looked at with. -/
lemma BoundArrays.setBounds (ha : a.BoundArrays) {v : VarId} {types : List TypeRef}
    (hfree : a.Unbounded v.index) (h : ∀ type ∈ types, a.Arrays type) :
    (a.setBounds v types).BoundArrays := by
  have hother : ∀ w : VarId, w.index < v.index →
      (a.setBounds v types).typeVar w = a.typeVar w := by
    intro w hw
    rw [typeVar_setBounds, if_neg]
    rintro ⟨rfl, -⟩
    omega
  intro w bound hbound
  by_cases hw : w.index < v.index
  · rw [hother w hw] at hbound
    refine (ha w bound hbound).of_bounds (fun _ _ h => h) fun x => ?_
    rw [bounds_before, bounds_before]
    split_ifs with hx
    · rw [hother x (hx.trans hw)]
    · rfl
  · rw [typeVar_setBounds] at hbound
    split_ifs at hbound with heq
    · -- the bounds were linked while this variable and later ones had none
      obtain ⟨rfl, -⟩ := heq
      refine (h bound hbound).of_bounds (fun _ _ h => h) fun x => ?_
      rw [bounds_before]
      split_ifs with hx
      · rw [hother x hx]
      · exact (hfree x (not_lt.mp hx)).symm
    · rw [hfree w (not_lt.mp hw)] at hbound
      cases hbound

/-! ## Signatures -/

/-- The type of a superclass, an interface, a field, a parameter or a return. -/
def Signs (a : Atlas) (type : TypeRef) : Prop :=
  (∃ c, type ∈ (a.cls c).superclass.toList ++ (a.cls c).interfaces) ∨
    ∃ m : MemberId, m.index < a.members.size ∧ type ∈ (a.member m).signatureTypes

/-- Generic arrays are right in signatures, and in bounds as things were before them. -/
structure Settled (a : Atlas) : Prop where
  signatures : ∀ type, a.Signs type → a.Arrays type
  bounds : a.BoundArrays

/-- Nothing happened to types: variables keep their bounds, classes their components, and there is
no new type in a signature.  Variables without bounds may have been added. -/
structure SameTypes (a a' : Atlas) : Prop where
  typeVarsSize : a.typeVars.size ≤ a'.typeVars.size
  bounds : ∀ v, (a'.typeVar v).bounds = (a.typeVar v).bounds
  component : a.KeepsComponents a'
  signs : ∀ type, a'.Signs type → a.Signs type

lemma SameTypes.refl (a : Atlas) : a.SameTypes a :=
  ⟨le_rfl, fun _ => rfl, fun _ _ h => h, fun _ h => h⟩

lemma SameTypes.trans {a'' : Atlas} (h : a.SameTypes a') (h' : a'.SameTypes a'') :
    a.SameTypes a'' :=
  ⟨h.typeVarsSize.trans h'.typeVarsSize, fun v => (h'.bounds v).trans (h.bounds v),
    fun c d hd => h'.component c d (h.component c d hd),
    fun type ht => h.signs type (h'.signs type ht)⟩

/-- It is enough to look at the types that are new in signatures. -/
lemma Settled.of_signs (h : a.Settled) (hcomponent : a.KeepsComponents a')
    (hbounds : ∀ v, (a'.typeVar v).bounds = (a.typeVar v).bounds)
    (hsigns : ∀ type, a'.Signs type → a.Signs type ∨ a.Arrays type) : a'.Settled where
  signatures type htype :=
    ((hsigns type htype).elim (h.signatures type) id).of_bounds hcomponent hbounds
  bounds := h.bounds.of_bounds hcomponent hbounds

lemma Settled.sameTypes (h : a.Settled) (hsame : a.SameTypes a') : a'.Settled :=
  h.of_signs hsame.component hsame.bounds fun type htype => Or.inl (hsame.signs type htype)

/-! ## Changes -/

lemma keepsComponents_of_eq (h : ∀ c, (a'.cls c).component = (a.cls c).component) :
    a.KeepsComponents a' :=
  fun c _ hd => (h c).trans hd

lemma Grows.keepsComponents (h : a.Grows a') : a.KeepsComponents a' := by
  intro c d hd
  have hc : c.index < a.classes.size :=
    lt_of_ne_default ClassNode.component (by rw [hd]; exact Option.some_ne_none d)
  rw [h.cls c hc]
  exact hd

lemma Grows.sameTypes (h : a.Grows a') : a.SameTypes a' where
  typeVarsSize := h.typeVarsSize
  bounds := h.bounds
  component := h.keepsComponents
  signs type htype := by
    rcases htype with ⟨c, hc⟩ | ⟨m, hm, htype⟩
    · refine Or.inl ⟨c, ?_⟩
      have hsupertypes := h.supertypes c
      simp only [ClassNode.supertypes, Prod.mk.injEq] at hsupertypes
      rwa [hsupertypes.1, hsupertypes.2] at hc
    · rw [h.members] at hm
      rw [h.member] at htype
      exact Or.inr ⟨m, hm, htype⟩

lemma sameTypes_modifyClass (a : Atlas) (id : ClassId) {change : ClassNode → ClassNode}
    (hcomponent : ∀ c, (change c).component = c.component)
    (hsupertypes : ∀ c, (change c).supertypes = c.supertypes) :
    a.SameTypes (a.modifyClass id change) where
  typeVarsSize := le_rfl
  bounds _ := rfl
  component := keepsComponents_of_eq (a.keep_modifyClass _ hcomponent id)
  signs type htype := by
    refine htype.imp_left fun ⟨c, hc⟩ => ⟨c, ?_⟩
    have hsame := a.keep_modifyClass _ hsupertypes id c
    simp only [ClassNode.supertypes, Prod.mk.injEq] at hsame
    rwa [hsame.1, hsame.2] at hc

lemma sameTypes_modifyMember (a : Atlas) (id : MemberId) {change : Member → Member}
    (h : ∀ m, (change m).signatureTypes = m.signatureTypes) :
    a.SameTypes (a.modifyMember id change) where
  typeVarsSize := le_rfl
  bounds _ := rfl
  component _ _ hd := hd
  signs type htype := by
    refine htype.imp_right fun ⟨m, hm, htype⟩ => ⟨m, a.size_modifyMember id change ▸ hm, ?_⟩
    rw [member_modifyMember] at htype
    split_ifs at htype
    · rwa [h] at htype
    · exact htype

lemma sameTypes_addAccess (a : Atlas) (make : AccessId → Access) :
    a.SameTypes (a.addAccess make).2 :=
  ⟨le_rfl, fun _ => rfl, fun _ _ h => h, fun _ h => h⟩

lemma sameTypes_addVariable (a : Atlas) (name : String) (owner : VarOwner) :
    a.SameTypes (a.addVariable name owner).2 where
  typeVarsSize := by simp [addVariable]
  bounds v := by
    rw [typeVar_push rfl]
    split_ifs with hv
    · rw [typeVar_eq_default hv.ge]
      rfl
    · rfl
  component _ _ hd := hd
  signs _ htype := htype

lemma Settled.modifyMember (ha : a.Settled) {id : MemberId} {change : Member → Member}
    (h : ∀ type ∈ (change (a.member id)).signatureTypes, a.Arrays type) :
    (a.modifyMember id change).Settled := by
  refine ha.of_signs (fun _ _ hd => hd) (fun _ => rfl) fun type htype => ?_
  rcases htype with hclass | ⟨m, hm, htype⟩
  · exact Or.inl (Or.inl hclass)
  · rw [size_modifyMember] at hm
    rw [member_modifyMember] at htype
    split_ifs at htype with heq
    · obtain ⟨rfl, -⟩ := heq
      exact Or.inr (h type htype)
    · exact Or.inl (Or.inr ⟨m, hm, htype⟩)

/-- A member that is added brings the types of its own signature. -/
lemma signs_addMember {make : MemberId → Member} {type : TypeRef}
    (h : (a.addMember make).2.Signs type) :
    a.Signs type ∨ type ∈ (make ⟨a.members.size⟩).signatureTypes := by
  rcases h with ⟨c, hc⟩ | ⟨m, hm, htype⟩
  · rw [a.keep_addMember ClassNode.superclass fun _ _ => rfl,
      a.keep_addMember ClassNode.interfaces fun _ _ => rfl] at hc
    exact Or.inl (Or.inl ⟨c, hc⟩)
  · rw [member_addMember] at htype
    split_ifs at htype with hnew
    · exact Or.inr htype
    · have hsize : (a.addMember make).2.members.size = a.members.size + 1 := by
        simp [Atlas.addMember, Atlas.modifyClass]
      exact Or.inl (Or.inr ⟨m, by omega, htype⟩)

lemma keepsComponents_addMember (a : Atlas) (make : MemberId → Member) :
    a.KeepsComponents (a.addMember make).2 :=
  keepsComponents_of_eq (a.keep_addMember _ (fun _ _ => rfl) make)

lemma Settled.addMember (ha : a.Settled) {make : MemberId → Member}
    (h : ∀ type ∈ (make ⟨a.members.size⟩).signatureTypes, a.Arrays type) :
    (a.addMember make).2.Settled :=
  ha.of_signs (a.keepsComponents_addMember make) (fun _ => rfl)
    fun type htype => (signs_addMember htype).imp_right (h type)

lemma sameTypes_addMember (a : Atlas) {make : MemberId → Member}
    (h : (make ⟨a.members.size⟩).signatureTypes = []) : a.SameTypes (a.addMember make).2 where
  typeVarsSize := le_rfl
  bounds _ := rfl
  component := a.keepsComponents_addMember make
  signs type htype := by
    rcases signs_addMember htype with hold | hnew
    · exact hold
    · rw [h] at hnew
      cases hnew

lemma Settled.setSupertypes (ha : a.Settled) {id : ClassId} (hid : id.index < a.classes.size)
    {superclass : Option TypeRef} {interfaces : List TypeRef}
    (h : ∀ type ∈ superclass.toList ++ interfaces, a.Arrays type) :
    (Linker.setSupertypes id superclass interfaces a).Settled := by
  obtain ⟨-, hframe⟩ := Linker.setSupertypes_frame id superclass interfaces a
  have hcomponent := Linker.keep_setSupertypes ClassNode.component (fun _ _ => rfl)
    (fun _ _ _ => rfl) id superclass interfaces a
  refine ha.of_signs (keepsComponents_of_eq hcomponent) (fun v => by rw [hframe]; rfl)
    fun type htype => ?_
  rcases htype with ⟨c, hc⟩ | hmember
  · rcases eq_or_ne c id with rfl | hne
    · have hset := Linker.supertypes_setSupertypes hid superclass interfaces
      simp only [ClassNode.supertypes, Prod.mk.injEq] at hset
      rw [hset.1, hset.2] at hc
      exact Or.inr (h type hc)
    · have hsame := Linker.keep_setSupertypes_of_ne ClassNode.supertypes (fun _ _ => rfl) hne
        superclass interfaces a
      simp only [ClassNode.supertypes, Prod.mk.injEq] at hsame
      rw [hsame.1, hsame.2] at hc
      exact Or.inl (Or.inl ⟨c, hc⟩)
  · rw [hframe] at hmember
    exact Or.inl (Or.inr hmember)

end Atlas

end ClassAtlas
