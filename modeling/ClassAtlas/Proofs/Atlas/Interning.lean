import ClassAtlas.Proofs.Atlas.Extent
import ClassAtlas.Proofs.TypeName.Reading

/-!
# Interning names

What happens to an atlas when the class of a name is asked for: it grows by stubs, and nothing that
was there changes.

* `Grows` — an atlas and a later one that has more stubs, type variables and names.
* `Named` — **classes and names belong together**: every class is found under its binary name, and a
  known name denotes the type of the class that it is known for.
* `Named.name_inj` — so no two classes have the same name.
* `grows_intern`, `names_intern`, `Named.intern` — what interning a name does.
* `Named.intern_array` — the array of a class can always be asked for.
-/

namespace ClassAtlas

open Registry

/-- What tells a class from others: its position, its type and its component. -/
def ClassNode.identity (c : ClassNode) : ClassId × Descriptor × Option ClassId :=
  (c.id, c.type, c.component)

/-- A class that mentions no other class. -/
structure ClassNode.Stub (c : ClassNode) : Prop where
  superclass : c.superclass = none
  interfaces : c.interfaces = []
  typeParameters : c.typeParameters = []
  enclosingClass : c.enclosingClass = none
  members : c.members = []
  annotations : c.annotations = []

/-- What a class mentions. -/
def ClassNode.content (c : ClassNode) : Option TypeRef × List TypeRef × List VarId ×
    Option ClassId × List MemberId × List Annot :=
  (c.superclass, c.interfaces, c.typeParameters, c.enclosingClass, c.members, c.annotations)

lemma ClassNode.stub_iff {c : ClassNode} : c.Stub ↔ c.content = (none, [], [], none, [], []) := by
  simp only [content, Prod.mk.injEq]
  refine ⟨fun h => ?_, fun ⟨h₁, h₂, h₃, h₄, h₅, h₆⟩ => ⟨h₁, h₂, h₃, h₄, h₅, h₆⟩⟩
  exact ⟨h.superclass, h.interfaces, h.typeParameters, h.enclosingClass, h.members, h.annotations⟩

/-- A class of which nothing is linked.  It has a component only if it is an array. -/
structure ClassNode.Blank (c : ClassNode) : Prop extends ClassNode.Stub c where
  subclasses : c.subclasses = []
  component : c.isArray = false → c.component = none

/-- A class without a record of which nothing is linked. -/
structure ClassNode.Bare (c : ClassNode) : Prop extends ClassNode.Blank c where
  imported : c.imported = false

lemma ClassNode.bare_default : (default : ClassNode).Bare :=
  ⟨⟨⟨rfl, rfl, rfl, rfl, rfl, rfl⟩, rfl, fun _ => rfl⟩, rfl⟩

namespace Atlas

/-! ## Looking at positions -/

lemma cls_eq_default {a : Atlas} {id : ClassId} (h : a.classes.size ≤ id.index) :
    a.cls id = default := by
  rw [cls, Array.getD_eq_getD_getElem?, Array.getElem?_eq_none h, Option.getD_none]

/-- A class that has something which a missing one has not is there. -/
lemma lt_of_ne_default {α : Type} {a : Atlas} {id : ClassId} (f : ClassNode → α)
    (h : f (a.cls id) ≠ f default) : id.index < a.classes.size := by
  by_contra hlt
  rw [cls_eq_default (not_lt.mp hlt)] at h
  exact h rfl

/-- Classes of different types differ. -/
lemma ne_of_type {a : Atlas} {c c' : ClassId} {d d' : Descriptor} (h : (a.cls c).type = d)
    (h' : (a.cls c').type = d') (hne : d ≠ d') : c ≠ c' := by
  rintro rfl
  exact hne (h.symm.trans h')

/-- An imported class is there. -/
lemma lt_of_imported {a : Atlas} {id : ClassId} (h : (a.cls id).imported = true) :
    id.index < a.classes.size :=
  lt_of_ne_default ClassNode.imported (by rw [h]; exact Bool.noConfusion)

lemma typeVar_eq_default {a : Atlas} {id : VarId} (h : a.typeVars.size ≤ id.index) :
    a.typeVar id = default := by
  rw [typeVar, Array.getD_eq_getD_getElem?, Array.getElem?_eq_none h, Option.getD_none]

/-- The class at a position after one was added at the end. -/
lemma cls_push {a a' : Atlas} {c : ClassNode} (h : a'.classes = a.classes.push c) (id : ClassId) :
    a'.cls id = if id.index = a.classes.size then c else a.cls id := by
  simp only [cls, Array.getD_eq_getD_getElem?, h, Array.getElem?_push]
  split_ifs <;> rfl

lemma typeVar_push {a a' : Atlas} {v : TypeVar} (h : a'.typeVars = a.typeVars.push v)
    (id : VarId) : a'.typeVar id = if id.index = a.typeVars.size then v else a.typeVar id := by
  simp only [typeVar, Array.getD_eq_getD_getElem?, h, Array.getElem?_push]
  split_ifs <;> rfl

/-! ## Growing -/

/-- An atlas and a later one: stubs, variables without bounds and names may have been added. -/
structure Grows (a a' : Atlas) : Prop where
  members : a'.members = a.members
  accesses : a'.accesses = a.accesses
  imported : a'.imported = a.imported
  classesSize : a.classes.size ≤ a'.classes.size
  cls : ∀ id : ClassId, id.index < a.classes.size → a'.cls id = a.cls id
  bare : ∀ id : ClassId, a.classes.size ≤ id.index → (a'.cls id).Bare
  typeVarsSize : a.typeVars.size ≤ a'.typeVars.size
  typeVar : ∀ id : VarId, id.index < a.typeVars.size → a'.typeVar id = a.typeVar id
  unbounded : ∀ id : VarId, a.typeVars.size ≤ id.index → (a'.typeVar id).bounds = []
  /-- A variable that was added knows its position, and its owner is there. -/
  added : ∀ id : VarId, a.typeVars.size ≤ id.index → id.index < a'.typeVars.size →
    (a'.typeVar id).id = id ∧ (a'.typeVar id).owner.Within a'.extent
  names : ∀ name id, a.names.get? name = some id → a'.names.get? name = some id

lemma Grows.extent {a a' : Atlas} (h : Grows a a') : a.extent.Le a'.extent where
  classes := h.classesSize
  members := (congrArg Array.size h.members).ge
  accesses := (congrArg Array.size h.accesses).ge
  vars := h.typeVarsSize

lemma Grows.refl (a : Atlas) : Grows a a where
  members := rfl
  accesses := rfl
  imported := rfl
  classesSize := le_rfl
  cls _ _ := rfl
  bare id h := by rw [cls_eq_default h]; exact ClassNode.bare_default
  typeVarsSize := le_rfl
  typeVar _ _ := rfl
  unbounded id h := by rw [typeVar_eq_default h]; rfl
  added _ h h' := absurd h' (not_lt.mpr h)
  names _ _ h := h

lemma Grows.trans {a b c : Atlas} (h : Grows a b) (h' : Grows b c) : Grows a c where
  members := h'.members.trans h.members
  accesses := h'.accesses.trans h.accesses
  imported := h'.imported.trans h.imported
  classesSize := h.classesSize.trans h'.classesSize
  cls id hid := (h'.cls id (hid.trans_le h.classesSize)).trans (h.cls id hid)
  bare id hid := by
    rcases lt_or_ge id.index b.classes.size with hb | hb
    · rw [h'.cls id hb]; exact h.bare id hid
    · exact h'.bare id hb
  typeVarsSize := h.typeVarsSize.trans h'.typeVarsSize
  typeVar id hid := (h'.typeVar id (hid.trans_le h.typeVarsSize)).trans (h.typeVar id hid)
  unbounded id hid := by
    rcases lt_or_ge id.index b.typeVars.size with hb | hb
    · rw [h'.typeVar id hb]; exact h.unbounded id hid
    · exact h'.unbounded id hb
  added id hid hid' := by
    rcases lt_or_ge id.index b.typeVars.size with hb | hb
    · rw [h'.typeVar id hb]
      exact (h.added id hid hb).imp_right (·.mono h'.extent)
    · exact h'.added id hb hid'
  names name id hn := h'.names name id (h.names name id hn)

/-- More names, and nothing else that counts. -/
lemma Grows.of_names {a a' : Atlas} (hc : a'.classes = a.classes) (hm : a'.members = a.members)
    (ha : a'.accesses = a.accesses) (hv : a'.typeVars = a.typeVars)
    (hi : a'.imported = a.imported)
    (hn : ∀ name id, a.names.get? name = some id → a'.names.get? name = some id) : Grows a a' where
  members := hm
  accesses := ha
  imported := hi
  classesSize := by rw [hc]
  cls id _ := by rw [Atlas.cls, Atlas.cls, hc]
  bare id h := by
    rw [cls_eq_default (by rw [hc]; exact h)]
    exact ClassNode.bare_default
  typeVarsSize := by rw [hv]
  typeVar id _ := by rw [Atlas.typeVar, Atlas.typeVar, hv]
  unbounded id h := by
    rw [typeVar_eq_default (by rw [hv]; exact h)]
    rfl
  added id h h' := absurd (hv ▸ h') (not_lt.mpr h)
  names := hn

lemma get?_names_insert (names : Std.HashMap String ClassId) (name : String) (id : ClassId)
    (n : String) : (names.insert name id).get? n = if name = n then some id else names.get? n := by
  simp only [Std.HashMap.get?_eq_getElem?, Std.HashMap.getElem?_insert, beq_iff_eq]

/-- Adding a name that was new. -/
lemma Grows.insertName {a b : Atlas} (h : Grows a b) {name : String}
    (hnew : a.names.get? name = none) (id : ClassId) :
    Grows a { b with names := b.names.insert name id } :=
  { h with
    cls := h.cls
    bare := h.bare
    typeVar := h.typeVar
    unbounded := h.unbounded
    added := h.added
    names := fun n i hn => by
      rw [get?_names_insert, if_neg, h.names n i hn]
      rintro rfl
      rw [hnew] at hn
      cases hn }

/-- Adding the stub of a type whose name was new. -/
lemma Grows.addStub {a b : Atlas} (h : Grows a b) {type : Descriptor}
    (hnew : a.names.get? type.name = none) {component : Option ClassId}
    (hcomponent : type.isArray = false → component = none) :
    Grows a (b.addStub type component).2 where
  members := h.members
  accesses := h.accesses
  imported := h.imported
  classesSize := by
    simp only [Atlas.addStub, Array.size_push]
    exact h.classesSize.trans (Nat.le_succ _)
  cls id hid := by rw [cls_push rfl, if_neg (hid.trans_le h.classesSize).ne, h.cls id hid]
  bare id hid := by
    rw [cls_push rfl]
    split_ifs
    · exact ⟨⟨⟨rfl, rfl, rfl, rfl, rfl, rfl⟩, rfl, hcomponent⟩, rfl⟩
    · exact h.bare id hid
  typeVarsSize := h.typeVarsSize
  typeVar := h.typeVar
  unbounded := h.unbounded
  added id hid hid' := by
    have hle : b.extent.Le (b.addStub type component).2.extent :=
      ⟨by simp [Atlas.extent, Atlas.addStub], le_rfl, le_rfl, le_rfl⟩
    exact (h.added id hid hid').imp_right fun howner => howner.mono hle
  names := (h.insertName hnew _).names

lemma grows_addVariable {a : Atlas} (name : String) {owner : VarOwner}
    (howner : owner.Within a.extent) : Grows a (a.addVariable name owner).2 where
  members := rfl
  accesses := rfl
  imported := rfl
  classesSize := le_rfl
  cls _ _ := rfl
  bare := (Grows.refl a).bare
  typeVarsSize := by simp [addVariable]
  typeVar id hid := by rw [typeVar_push rfl, if_neg hid.ne]
  unbounded id hid := by
    rw [typeVar_push rfl]
    split_ifs
    · rfl
    · exact (Grows.refl a).unbounded id hid
  added id hid hid' := by
    have hlast : id.index = a.typeVars.size := by
      simp only [addVariable, Array.size_push] at hid'
      omega
    rw [typeVar_push rfl, if_pos hlast]
    exact ⟨by rw [← hlast], howner.mono ⟨le_rfl, le_rfl, le_rfl, by simp [extent]⟩⟩
  names _ _ h := h

/-- Placing a type that has a class. -/
lemma place_of_known {a : Atlas} {d : Descriptor} {id : ClassId}
    (h : a.names.get? d.name = some id) : place d a = (id, a) := by
  cases d <;> simp only [place, h]

/-- What placing does, as an induction: a type that has a class is found, an array is added after
its component was placed, and any other type is added at once. -/
lemma place_induction {P : Descriptor → Atlas → ClassId × Atlas → Prop}
    (known : ∀ d a id, a.names.get? d.name = some id → P d a (id, a))
    (array : ∀ c a, a.names.get? (Descriptor.array c).name = none → P c a (place c a) →
      P (.array c) a ((place c a).2.addStub (.array c) (some (place c a).1)))
    (other : ∀ d a, d.isArray = false → a.names.get? d.name = none → P d a (a.addStub d none))
    (d : Descriptor) (a : Atlas) : P d a (place d a) := by
  induction d with
  | array component ih =>
      rcases hknown : a.names.get? (Descriptor.array component).name with _ | id
      · simp only [place, hknown]
        exact array component a hknown ih
      · rw [place_of_known hknown]
        exact known _ a id hknown
  | primitive p =>
      rcases hknown : a.names.get? (Descriptor.primitive p).name with _ | id
      · simp only [place, hknown]
        exact other _ a rfl hknown
      · rw [place_of_known hknown]
        exact known _ a id hknown
  | object className =>
      rcases hknown : a.names.get? (Descriptor.object className).name with _ | id
      · simp only [place, hknown]
        exact other _ a rfl hknown
      · rw [place_of_known hknown]
        exact known _ a id hknown

/-- Placing a type adds stubs, and its binary name is known afterwards. -/
lemma grows_place (d : Descriptor) (a : Atlas) :
    Grows a (place d a).2 ∧ (place d a).2.names.get? d.name = some (place d a).1 := by
  refine place_induction (P := fun d a p => Grows a p.2 ∧ p.2.names.get? d.name = some p.1)
    (fun d a id hknown => ⟨Grows.refl a, hknown⟩) (fun c a hnew ih => ?_)
    (fun d a harray hnew => ?_) d a
  · exact ⟨ih.1.addStub hnew (fun h => by cases h), by simp [addStub]⟩
  · exact ⟨(Grows.refl a).addStub hnew (fun _ => rfl), by simp [addStub]⟩

/-- Placing a type changes neither what the registry remembers nor the type variables. -/
lemma frame_place (d : Descriptor) (a : Atlas) :
    (place d a).2.registry = a.registry ∧ (place d a).2.typeVars = a.typeVars :=
  place_induction (P := fun _ a p => p.2.registry = a.registry ∧ p.2.typeVars = a.typeVars)
    (fun _ _ _ _ => ⟨rfl, rfl⟩) (fun _ _ _ ih => ih) (fun _ _ _ _ => ⟨rfl, rfl⟩) d a

/-- How the class of a name is found: it is known, or the name is read and its type placed. -/
lemma intern_eq_ok {a a' : Atlas} {name : String} {id : ClassId}
    (h : a.intern name = .ok (id, a')) :
    a.names.get? name = some id ∧ a' = a ∨
      a.names.get? name = none ∧ ∃ d r, a.registry.describe name.toList = .ok (d, r) ∧
        id = (place d { a with registry := r }).1 ∧
        a' = { (place d { a with registry := r }).2 with
          names := (place d { a with registry := r }).2.names.insert name id } := by
  unfold intern at h
  rcases hknown : a.names.get? name with _ | known
  · rw [hknown] at h
    rcases hread : a.registry.describe name.toList with e | ⟨d, r⟩
    · rw [hread] at h; cases h
    · rw [hread] at h
      cases h
      exact Or.inr ⟨rfl, d, r, rfl, rfl, rfl⟩
  · rw [hknown] at h
    cases h
    exact Or.inl ⟨rfl, rfl⟩

/-- Interning a name adds stubs. -/
theorem grows_intern {a a' : Atlas} {name : String} {id : ClassId}
    (h : a.intern name = .ok (id, a')) : Grows a a' := by
  rcases intern_eq_ok h with ⟨-, rfl⟩ | ⟨hnew, d, r, -, -, rfl⟩
  · exact Grows.refl _
  · have hplace := (grows_place d { a with registry := r }).1
    have hstart : Grows a { a with registry := r } :=
      Grows.of_names rfl rfl rfl rfl rfl fun _ _ hn => hn
    exact (hstart.trans hplace).insertName hnew _

/-- The name is known afterwards. -/
theorem names_intern {a a' : Atlas} {name : String} {id : ClassId}
    (h : a.intern name = .ok (id, a')) : a'.names.get? name = some id := by
  rcases intern_eq_ok h with ⟨hknown, rfl⟩ | ⟨-, d, r, -, -, rfl⟩
  · exact hknown
  · simp

/-! ## Classes and their names -/

/-- An array has a component that comes before it, and nothing else has one. -/
def Composed (a : Atlas) (id : ClassId) (type : Descriptor) (component : Option ClassId) : Prop :=
  component = none ∧ type.isArray = false ∨
    ∃ d, component = some d ∧ d.index < id.index ∧ type = .array (a.cls d).type

/-- Classes and names belong together. -/
structure Named (a : Atlas) : Prop where
  grounded : a.registry.Grounded
  position : ∀ id : ClassId, id.index < a.classes.size → (a.cls id).id = id
  composed : ∀ id : ClassId, id.index < a.classes.size →
    a.Composed id (a.cls id).type (a.cls id).component
  /-- A class is found under its binary name. -/
  own : ∀ id : ClassId, id.index < a.classes.size → a.names.get? (a.cls id).name = some id
  inRange : ∀ {name : String} {id : ClassId},
    a.names.get? name = some id → id.index < a.classes.size
  denotes : ∀ {name : String} {id : ClassId},
    a.names.get? name = some id → Denotes name.toList (a.cls id).type
  /-- The registry remembers every known name. -/
  registered : ∀ {name : String} {id : ClassId},
    a.names.get? name = some id → a.registry.get? name = some (a.cls id).type

/-- **No two classes have the same name.** -/
theorem Named.name_inj {a : Atlas} (ha : Named a) {i j : ClassId} (hi : i.index < a.classes.size)
    (hj : j.index < a.classes.size) (h : (a.cls i).name = (a.cls j).name) : i = j := by
  have hown := ha.own i hi
  rw [h, ha.own j hj, Option.some_inj] at hown
  exact hown.symm

lemma Named.proper {a : Atlas} (ha : Named a) {id : ClassId} (hid : id.index < a.classes.size) :
    (a.cls id).type.Proper :=
  (ha.denotes (ha.own id hid)).proper

/-- The class of a known name that denotes a type. -/
lemma Named.type_eq {a : Atlas} (ha : Named a) {name : String} {id : ClassId} {d : Descriptor}
    (hknown : a.names.get? name = some id) (h : Denotes name.toList d) : (a.cls id).type = d :=
  (ha.denotes hknown).unique h

/-- The class of a known name in binary form has this name. -/
lemma Named.name_eq {a : Atlas} (ha : Named a) {id : ClassId} {d : Descriptor} (hd : d.Proper)
    (hknown : a.names.get? d.name = some id) : (a.cls id).name = d.name :=
  congrArg Descriptor.name (ha.type_eq hknown (denotes_name hd))

lemma named_init : Named {} where
  grounded := grounded_empty
  position id hid := absurd hid (Nat.not_lt_zero _)
  composed id hid := absurd hid (Nat.not_lt_zero _)
  own id hid := absurd hid (Nat.not_lt_zero _)
  inRange h := by simp at h
  denotes h := by simp at h
  registered h := by simp at h

/-- An array stays composed while classes keep their types. -/
lemma Composed.of_types {a a' : Atlas} {id : ClassId} {type : Descriptor}
    {component : Option ClassId} (h : a.Composed id type component)
    (htype : ∀ d : ClassId, d.index < id.index → (a'.cls d).type = (a.cls d).type) :
    a'.Composed id type component := by
  refine h.imp_right fun ⟨d, hcomponent, hlt, heq⟩ => ⟨d, hcomponent, hlt, ?_⟩
  rw [htype d hlt]
  exact heq

/-- Names depend on the identities of classes only. -/
lemma Named.of_identity {a a' : Atlas} (ha : Named a) (hsize : a'.classes.size = a.classes.size)
    (hnames : a'.names = a.names) (hregistry : a'.registry = a.registry)
    (hcls : ∀ c, (a'.cls c).identity = (a.cls c).identity) : Named a' := by
  have hposition : ∀ c, (a'.cls c).id = (a.cls c).id := fun c => congrArg (·.1) (hcls c)
  have htype : ∀ c, (a'.cls c).type = (a.cls c).type := fun c => congrArg (·.2.1) (hcls c)
  have hcomponent : ∀ c, (a'.cls c).component = (a.cls c).component :=
    fun c => congrArg (·.2.2) (hcls c)
  have hname : ∀ c, (a'.cls c).name = (a.cls c).name := fun c => congrArg Descriptor.name (htype c)
  constructor
  · exact hregistry ▸ ha.grounded
  · intro id hid
    rw [hposition]
    exact ha.position id (hsize ▸ hid)
  · intro id hid
    rw [htype, hcomponent]
    exact (ha.composed id (hsize ▸ hid)).of_types fun d _ => htype d
  · intro id hid
    rw [hnames, hname]
    exact ha.own id (hsize ▸ hid)
  · intro name id h
    rw [hnames] at h
    exact hsize ▸ ha.inRange h
  · intro name id h
    rw [hnames] at h
    rw [htype]
    exact ha.denotes h
  · intro name id h
    rw [hnames] at h
    rw [hregistry, htype]
    exact ha.registered h

lemma Named.addVariable {a : Atlas} {name : String} {owner : VarOwner} (ha : Named a) :
    Named (a.addVariable name owner).2 :=
  ⟨ha.grounded, ha.position, ha.composed, ha.own, ha.inRange, ha.denotes, ha.registered⟩

/-- A registry that knows more. -/
lemma Named.withRegistry {a : Atlas} (ha : Named a) {r : Registry} (hgrounded : r.Grounded)
    (hmono : a.registry.Extends r) : Named { a with registry := r } where
  grounded := hgrounded
  position := ha.position
  composed := ha.composed
  own := ha.own
  inRange := ha.inRange
  denotes := ha.denotes
  registered h := hmono _ _ (ha.registered h)

/-- A further name for a class. -/
lemma Named.insertName {a : Atlas} (ha : Named a) {name : String} {id : ClassId}
    (hid : id.index < a.classes.size) (h : Denotes name.toList (a.cls id).type)
    (hregistered : a.registry.get? name = some (a.cls id).type) :
    Named { a with names := a.names.insert name id } where
  grounded := ha.grounded
  position := ha.position
  composed := ha.composed
  own c hc := by
    change (a.names.insert name id).get? (a.cls c).name = some c
    rw [get?_names_insert]
    split_ifs with hname
    · -- the class that has this name is the one that it is added for
      have hden : Denotes (a.cls c).name.toList (a.cls id).type := hname ▸ h
      have htype : (a.cls c).type = (a.cls id).type := ha.type_eq (ha.own c hc) hden
      have hsame : c = id := ha.name_inj hc hid (congrArg Descriptor.name htype)
      rw [hsame]
    · exact ha.own c hc
  inRange {n i} hn := by
    rw [get?_names_insert] at hn
    split_ifs at hn
    · cases hn; exact hid
    · exact ha.inRange hn
  denotes {n i} hn := by
    rw [get?_names_insert] at hn
    split_ifs at hn with hname
    · cases hn; exact hname ▸ h
    · exact ha.denotes hn
  registered {n i} hn := by
    rw [get?_names_insert] at hn
    split_ifs at hn with hname
    · cases hn; exact hname ▸ hregistered
    · exact ha.registered hn

/-- The stub of a type that is new. -/
lemma Named.addStub {a : Atlas} (ha : Named a) {d : Descriptor} {component : Option ClassId}
    (hnew : a.names.get? d.name = none) (hproper : d.Proper)
    (hregistered : a.registry.get? d.name = some d)
    (hcomposed : a.Composed ⟨a.classes.size⟩ d component) : Named (a.addStub d component).2 := by
  have hcls : ∀ id, (a.addStub d component).2.cls id =
      if id.index = a.classes.size then
        { id := ⟨a.classes.size⟩, type := d, component := component }
      else a.cls id := cls_push rfl
  have hold : ∀ {id : ClassId}, id.index < (a.addStub d component).2.classes.size →
      id.index ≠ a.classes.size → id.index < a.classes.size := by
    intro id hid hne
    simp only [Atlas.addStub, Array.size_push] at hid
    omega
  have htype : ∀ id : ClassId, id.index < a.classes.size →
      ((a.addStub d component).2.cls id).type = (a.cls id).type := by
    intro id hid
    rw [hcls, if_neg hid.ne]
  have hnames : ∀ n, (a.addStub d component).2.names.get? n =
      if d.name = n then some ⟨a.classes.size⟩ else a.names.get? n := get?_names_insert _ _ _
  constructor
  · exact ha.grounded
  · intro id hid
    rw [hcls]
    split_ifs with hsize
    · rw [← hsize]
    · exact ha.position id (hold hid hsize)
  · intro id hid
    rw [hcls]
    split_ifs with hsize
    · obtain ⟨i⟩ := id
      cases hsize
      exact hcomposed.of_types htype
    · have hlt := hold hid hsize
      exact (ha.composed id hlt).of_types fun e he => htype e (he.trans hlt)
  · intro id hid
    rw [hnames, hcls]
    split_ifs with hsize hname hname
    · rw [← hsize]
    · exact absurd rfl hname
    · have hown := ha.own id (hold hid hsize)
      rw [← hname, hnew] at hown
      cases hown
    · exact ha.own id (hold hid hsize)
  · intro n i hn
    rw [hnames] at hn
    simp only [Atlas.addStub, Array.size_push]
    split_ifs at hn
    · cases hn; exact Nat.lt_succ_self _
    · exact (ha.inRange hn).trans (Nat.lt_succ_self _)
  · intro n i hn
    rw [hnames] at hn
    rw [hcls]
    split_ifs at hn with hname
    · cases hn
      rw [if_pos rfl, ← hname]
      exact denotes_name hproper
    · rw [if_neg (ha.inRange hn).ne]
      exact ha.denotes hn
  · intro n i hn
    rw [hnames] at hn
    rw [hcls]
    split_ifs at hn with hname
    · cases hn
      rw [if_pos rfl, ← hname]
      exact hregistered
    · rw [if_neg (ha.inRange hn).ne]
      exact ha.registered hn

/-- Interning a name adds no type variable. -/
lemma typeVars_intern {a a' : Atlas} {name : String} {id : ClassId}
    (h : a.intern name = .ok (id, a')) : a'.typeVars = a.typeVars := by
  rcases intern_eq_ok h with ⟨-, rfl⟩ | ⟨-, d, r, -, -, rfl⟩
  · rfl
  · exact (frame_place d { a with registry := r }).2

/-- The names that become known with a type have no more array layers than it. -/
lemma names_place {d : Descriptor} {a : Atlas} {n : String} {id : ClassId} (hd : d.Proper)
    (h : (place d a).2.names.get? n = some id) :
    a.names.get? n = some id ∨ ∃ e : Descriptor, e.Proper ∧ e.layers ≤ d.layers ∧ n = e.name := by
  refine place_induction (P := fun d a p => d.Proper → p.2.names.get? n = some id →
    a.names.get? n = some id ∨ ∃ e : Descriptor, e.Proper ∧ e.layers ≤ d.layers ∧ n = e.name)
    (fun _ _ _ _ _ h => Or.inl h) (fun c a _ ih hd h => ?_) (fun d a _ _ hd h => ?_) d a hd h <;>
    simp only [Atlas.addStub, get?_names_insert] at h <;> split_ifs at h with hname
  · exact Or.inr ⟨_, hd, le_rfl, hname.symm⟩
  · rcases ih hd h with hold | ⟨e, he, hlayers, hn⟩
    · exact Or.inl hold
    · exact Or.inr ⟨e, he, hlayers.trans (Nat.le_succ _), hn⟩
  · exact Or.inr ⟨_, hd, le_rfl, hname.symm⟩
  · exact Or.inl h

lemma Named.place {d : Descriptor} {a : Atlas} (ha : Named a)
    (hd : a.registry.get? d.name = some d) : Named (place d a).2 := by
  refine place_induction
    (P := fun d a p => Named a → a.registry.get? d.name = some d → Named p.2)
    (fun _ _ _ _ ha _ => ha) (fun c a hnew ih ha hd => ?_) (fun d a harray hnew ha hd => ?_)
    d a ha hd
  · have hproper : (Descriptor.array c).Proper := (ha.grounded.denotes hd).proper
    have hplaced := ih ha (ha.grounded.component hd)
    refine hplaced.addStub ?_ hproper (by rwa [(frame_place c a).1]) (Or.inr ⟨_, rfl, ?_, ?_⟩)
    · -- the name of the array did not become known along with the component
      by_contra hsome
      obtain ⟨i, hi⟩ := Option.ne_none_iff_exists'.mp hsome
      rcases names_place (d := c) hproper hi with hold | ⟨e, he, hlayers, hname⟩
      · rw [hnew] at hold; cases hold
      · have heq : Descriptor.array c = e := hproper.name_inj he hname
        rw [← heq, Descriptor.layers] at hlayers
        omega
    · exact hplaced.inRange (grows_place c a).2
    · rw [hplaced.type_eq (grows_place c a).2 (denotes_name (d := c) hproper)]
  · exact ha.addStub hnew (ha.grounded.denotes hd).proper hd (Or.inl ⟨rfl, harray⟩)

/-- **Interning keeps classes and names together.** -/
theorem Named.intern {a a' : Atlas} (ha : Named a) {name : String} {id : ClassId}
    (h : a.intern name = .ok (id, a')) : Named a' := by
  rcases intern_eq_ok h with ⟨-, rfl⟩ | ⟨-, d, r, hread, rfl, rfl⟩
  · exact ha
  · obtain ⟨hden, hlearned, hgrounded⟩ := ha.grounded.describe hread
    have hstart : Named { a with registry := r } := ha.withRegistry hgrounded hlearned.mono
    have hplaced : Named (Atlas.place d { a with registry := r }).2 := hstart.place hlearned.own
    have hname := (grows_place d { a with registry := r }).2
    have hread' := get?_of_describe hread
    rw [String.ofList_toList] at hread'
    refine hplaced.insertName (hplaced.inRange hname) ?_ ?_
    · rwa [hplaced.type_eq hname (denotes_name hden.proper)]
    · rwa [hplaced.type_eq hname (denotes_name hden.proper), (frame_place _ _).1]

/-- A name that the registry can read can be interned. -/
lemma intern_of_describe {a : Atlas} {name : String}
    (h : ∃ d r, a.registry.describe name.toList = .ok (d, r)) :
    ∃ id a', a.intern name = .ok (id, a') := by
  obtain ⟨d, r, hread⟩ := h
  unfold Atlas.intern
  rcases hknown : a.names.get? name with _ | id
  · rw [hread]
    exact ⟨_, _, rfl⟩
  · exact ⟨id, a, rfl⟩

/-- A name that can be read can be interned. -/
theorem intern_isOk {name : String} (h : readable name.toList = true) (a : Atlas) :
    ∃ id a', a.intern name = .ok (id, a') :=
  intern_of_describe (describe_isOk h a.registry)

lemma intern_eq_error {a : Atlas} {name : String} {e : ModelError}
    (h : a.intern name = .error e) : ∃ part, e = .invalidTypeName part := by
  unfold Atlas.intern at h
  rcases hknown : a.names.get? name with _ | id
  · rw [hknown] at h
    rcases hread : a.registry.describe name.toList with e' | ⟨d, r⟩
    · rw [hread] at h
      cases h
      exact describe_eq_error hread
    · rw [hread] at h
      cases h
  · rw [hknown] at h
    cases h

/-- **The array of a class can be asked for**, whatever its name is. -/
theorem Named.intern_array {a : Atlas} (ha : Named a) {id : ClassId}
    (hid : id.index < a.classes.size) :
    ∃ arrayId a', a.intern ((a.cls id).name ++ "[]") = .ok (arrayId, a') :=
  intern_of_describe (describe_array ha.grounded.toTruthful (ha.registered (ha.own id hid)))

end Atlas

end ClassAtlas
