import ClassAtlas.Atlas.Access
import ClassAtlas.Atlas.Member
import ClassAtlas.Batch
import Mathlib.Data.List.Nodup
import Mathlib.Tactic.Common

/-!
# The type names in records

Records refer to classes by name.  This file lists the names, so that a statement about linking can
speak about all of them.

* `TypeSig.names` and the like — the names in one record.
* `ImportContext.Mentions` — a name that linking a context may ask for.
* `Batch.names`, `Batch.mem_names_of_mentions` — the names of a batch are all that its context
  mentions.
-/

namespace ClassAtlas

/-! ## Signatures and annotations -/

mutual

/-- The type names in a signature. -/
def TypeSig.names : TypeSig → List String
  | .cls name => [name]
  | .parameterized raw arguments => raw :: TypeSig.namesIn arguments
  | .variable _ => []
  | .wildcard upper lower => TypeSig.namesIn upper ++ TypeSig.namesIn lower
  | .genericArray component => component.names

def TypeSig.namesIn : List TypeSig → List String
  | [] => []
  | sig :: sigs => sig.names ++ TypeSig.namesIn sigs

end

lemma TypeSig.mem_namesIn {sigs : List TypeSig} {n : String} :
    n ∈ TypeSig.namesIn sigs ↔ ∃ sig ∈ sigs, n ∈ sig.names := by
  induction sigs with
  | nil => simp [TypeSig.namesIn]
  | cons sig sigs ih => simp [TypeSig.namesIn, ih]

/-- The type names in the bounds of a type parameter. -/
def TypeParam.names (p : TypeParam) : List String :=
  TypeSig.namesIn p.bounds

namespace Record

mutual

/-- The type names in the value of a property. -/
def AnnotValue.names : AnnotValue → List String
  | .cls typeName => [typeName]
  | .enumConstant enumType _ => [enumType]
  | .nested type properties => type :: AnnotValue.namesInProperties properties
  | .array items => AnnotValue.namesIn items
  | _ => []

def AnnotValue.namesInProperties : List (String × AnnotValue) → List String
  | [] => []
  | (_, value) :: rest => value.names ++ AnnotValue.namesInProperties rest

def AnnotValue.namesIn : List AnnotValue → List String
  | [] => []
  | value :: rest => value.names ++ AnnotValue.namesIn rest

end

/-- The type names in an annotation. -/
def Annot.names (r : Annot) : List String :=
  r.type :: AnnotValue.namesInProperties r.properties

/-! ## Members and classes -/

/-- The type names in the record of a field. -/
def Field.names (r : Field) : List String :=
  r.type.names ++ r.annotations.flatMap Annot.names

/-- The type names in the record of a parameter. -/
def Param.names (r : Param) : List String :=
  r.type.names ++ r.annotations.flatMap Annot.names

/-- What is recorded of an access: an access to a field, or a call or reference. -/
inductive Use where
  | field (r : FieldAccess)
  | call (kind : AccessKind) (r : Call)

namespace Use

/-- The kind of the access. -/
def kind : Use → AccessKind
  | .field r => .fieldAccess r.use
  | .call kind _ => kind

/-- The name of the class through which the member is accessed. -/
def owner : Use → String
  | .field r => r.owner
  | .call _ r => r.owner

/-- The name of the member. -/
def name : Use → String
  | .field r => r.name
  | .call _ r => r.name

/-- The names of the parameter types. -/
def parameters : Use → List String
  | .field _ => []
  | .call _ r => r.parameters

/-- The name of the type of the field, or of the return type. -/
def returns : Use → String
  | .field r => r.type
  | .call _ r => r.returns

/-- The line of the access. -/
def line : Use → ℕ
  | .field r => r.line
  | .call _ r => r.line

/-- The type names in the record of an access. -/
def names (r : Use) : List String :=
  r.owner :: r.returns :: r.parameters

end Use

namespace CodeUnit

/-- The type names in the signature, the annotations and the body of a code unit, other than in
what it accesses. -/
def names (r : CodeUnit) : List String :=
  r.typeParameters.flatMap TypeParam.names ++ r.parameters.flatMap Param.names ++
    r.returns.names ++ r.throws ++ r.catchBlocks.flatMap (·.types) ++
    r.instanceofChecks.map (·.type) ++ r.classObjects.map (·.type) ++
    r.annotations.flatMap Annot.names

/-- The accesses of a code unit, in the order in which they are linked. -/
def uses (r : CodeUnit) : List Use :=
  r.fieldAccesses.map .field ++ r.methodCalls.map (.call .methodCall) ++
    r.constructorCalls.map (.call .constructorCall) ++
    r.methodReferences.map (.call .methodReference) ++
    r.constructorReferences.map (.call .constructorReference)

end CodeUnit

/-- The type names in the record of a class, its own name included. -/
def Class.names (r : Class) : List String :=
  r.name :: TypeSig.namesIn r.effectiveSuperclass.toList ++ TypeSig.namesIn r.interfaces ++
    r.typeParameters.flatMap TypeParam.names ++ r.enclosingClass.toList ++
    r.annotations.flatMap Annot.names ++ r.fields.flatMap Field.names ++
    r.codeUnits.flatMap CodeUnit.names ++ (r.codeUnits.flatMap CodeUnit.uses).flatMap Use.names

lemma Class.mem_names_of_codeUnit {r : Class} {u : CodeUnit} {n : String} (hu : u ∈ r.codeUnits)
    (hn : n ∈ u.names) : n ∈ r.names :=
  List.mem_append_left _ (List.mem_append_right _ (List.mem_flatMap_of_mem hu hn))

end Record

/-! ## Contexts and batches -/

namespace ImportContext

/-- The code units of a class, by kind. -/
def codeUnits (c : ImportContext) (name : String) : CodeKind → List Record.CodeUnit
  | .constructor => c.constructors name
  | .method => c.methods name
  | .staticInitializer => (c.staticInitializer name).toList

/-- The code units of a class with their kinds, in the order in which they are linked. -/
def unitRecords (c : ImportContext) (name : String) : List (CodeKind × Record.CodeUnit) :=
  [CodeKind.constructor, .method, .staticInitializer].flatMap fun kind =>
    (c.codeUnits name kind).map (kind, ·)

lemma mem_unitRecords {c : ImportContext} {name : String} {e : CodeKind × Record.CodeUnit} :
    e ∈ c.unitRecords name ↔ e.2 ∈ c.codeUnits name e.1 := by
  obtain ⟨kind, r⟩ := e
  cases kind <;> simp [unitRecords]

/-- The accesses of a code unit, in the order in which they are linked. -/
def uses (c : ImportContext) (key : UnitKey) : List Record.Use :=
  (c.fieldAccesses key).map .field ++ (c.methodCalls key).map (.call .methodCall) ++
    (c.constructorCalls key).map (.call .constructorCall) ++
    (c.methodReferences key).map (.call .methodReference) ++
    (c.constructorReferences key).map (.call .constructorReference)

/-- A type name that linking may ask for. -/
inductive Mentions (c : ImportContext) : String → Prop
  | header {h : Record.Header} (hh : h ∈ c.headers) : Mentions c h.name
  | superclass {name n : String} {sig : TypeSig} (hs : c.superclass name = some sig)
      (hn : n ∈ sig.names) : Mentions c n
  | interfaces {name n : String} (hn : n ∈ TypeSig.namesIn (c.interfaces name)) : Mentions c n
  | typeParameters {name n : String} {p : TypeParam} (hp : p ∈ c.typeParameters name)
      (hn : n ∈ p.names) : Mentions c n
  | enclosing {name n : String} (h : c.enclosingClass name = some n) : Mentions c n
  | field {name n : String} {r : Record.Field} (hr : r ∈ c.fields name) (hn : n ∈ r.names) :
      Mentions c n
  | codeUnit {name n : String} {kind : CodeKind} {r : Record.CodeUnit}
      (hr : r ∈ c.codeUnits name kind) (hn : n ∈ r.names) : Mentions c n
  | annot {name n : String} {r : Record.Annot} (hr : r ∈ c.annotations name)
      (hn : n ∈ r.names) : Mentions c n
  | use {key : UnitKey} {n : String} {r : Record.Use} (hr : r ∈ c.uses key) (hn : n ∈ r.names) :
      Mentions c n

end ImportContext

namespace Batch

/-- The type names of a batch. -/
def names (b : Batch) : List String :=
  b.classes.flatMap Record.Class.names

lemma record?_mem {b : Batch} {name : String} {r : Record.Class} (h : b.record? name = some r) :
    r ∈ b.classes ∧ r.name = name :=
  ⟨List.mem_of_find?_eq_some h, by simpa using List.find?_some h⟩

/-- A record is found by its name if no two have the same. -/
lemma record?_of_mem {b : Batch} (hb : (b.classes.map (·.name)).Nodup) {r : Record.Class}
    (hr : r ∈ b.classes) : b.record? r.name = some r := by
  rcases hfound : b.record? r.name with _ | r'
  · exact absurd (List.find?_eq_none.mp hfound r hr) (by simp)
  · obtain ⟨hr', hname⟩ := record?_mem hfound
    exact congrArg some (List.inj_on_of_nodup_map hb hr' hr hname)

lemma mem_ofClass {α : Type} {b : Batch} {items : Record.Class → List α} {name : String} {x : α}
    (h : x ∈ b.ofClass items name) : ∃ r ∈ b.classes, x ∈ items r := by
  rw [ofClass] at h
  rcases hr : b.record? name with _ | r
  · simp [hr] at h
  · rw [hr] at h
    exact ⟨r, (record?_mem hr).1, h⟩

lemma mem_of_bind_record? {α : Type} {b : Batch} {item : Record.Class → Option α} {name : String}
    {x : α} (h : (b.record? name).bind item = some x) : ∃ r ∈ b.classes, item r = some x := by
  obtain ⟨r, hr, hx⟩ := Option.bind_eq_some_iff.mp h
  exact ⟨r, (record?_mem hr).1, hx⟩

lemma codeUnit?_mem {b : Batch} {key : UnitKey} {u : Record.CodeUnit}
    (h : b.codeUnit? key = some u) :
    ∃ r ∈ b.classes, r.name = key.owner ∧ u ∈ r.codeUnits ∧ u.name = key.name ∧
      u.descriptorIn (b.scopes key.owner) = key.descriptor := by
  obtain ⟨r, hr, hu⟩ := Option.bind_eq_some_iff.mp h
  have hfound := List.find?_some hu
  rw [Bool.and_eq_true, beq_iff_eq, beq_iff_eq] at hfound
  exact ⟨r, (record?_mem hr).1, (record?_mem hr).2, List.mem_of_find?_eq_some hu, hfound⟩

lemma mem_ofUnit {α : Type} {b : Batch} {items : Record.CodeUnit → List α} {key : UnitKey} {x : α}
    (h : x ∈ b.ofUnit items key) : ∃ r ∈ b.classes, ∃ u ∈ r.codeUnits, x ∈ items u := by
  rw [ofUnit] at h
  rcases hu : b.codeUnit? key with _ | u
  · simp [hu] at h
  · rw [hu] at h
    obtain ⟨r, hr, -, hmem, -⟩ := codeUnit?_mem hu
    exact ⟨r, hr, u, hmem, h⟩

/-- The accesses of a key are those of the code unit that the key finds. -/
lemma uses_context (b : Batch) (key : UnitKey) :
    b.context.uses key = b.ofUnit Record.CodeUnit.uses key := by
  simp only [ImportContext.uses, context, ofUnit]
  rcases b.codeUnit? key with _ | u
  · rfl
  · rfl

lemma mem_codeUnits {b : Batch} {name : String} {kind : CodeKind} {u : Record.CodeUnit}
    (h : u ∈ b.context.codeUnits name kind) : ∃ r ∈ b.classes, u ∈ r.codeUnits := by
  cases kind with
  | constructor =>
      obtain ⟨r, hr, hmem⟩ := mem_ofClass h
      exact ⟨r, hr, List.mem_append_left _ (List.mem_append_left _ hmem)⟩
  | method =>
      obtain ⟨r, hr, hmem⟩ := mem_ofClass h
      exact ⟨r, hr, List.mem_append_left _ (List.mem_append_right _ hmem)⟩
  | staticInitializer =>
      obtain ⟨r, hr, hmem⟩ := mem_of_bind_record? (Option.mem_toList.mp h)
      exact ⟨r, hr, List.mem_append_right _ (Option.mem_toList.mpr hmem)⟩

/-- The context of a batch mentions no other names. -/
theorem mem_names_of_mentions {b : Batch} {n : String} (h : b.context.Mentions n) :
    n ∈ b.names := by
  have hnames : ∀ {r : Record.Class}, r ∈ b.classes → n ∈ r.names → n ∈ b.names :=
    fun hr hn => List.mem_flatMap_of_mem hr hn
  cases h with
  | header hh =>
      obtain ⟨r, hr, rfl⟩ := List.mem_map.mp hh
      exact hnames hr (by simp [Record.Class.names, Record.Class.header])
  | superclass hs hn =>
      obtain ⟨r, hr, hsig⟩ := mem_of_bind_record? hs
      refine hnames hr ?_
      simp [Record.Class.names, hsig, TypeSig.mem_namesIn, hn]
  | interfaces hn =>
      obtain ⟨sig, hsig, hn⟩ := TypeSig.mem_namesIn.mp hn
      obtain ⟨r, hr, hmem⟩ := mem_ofClass hsig
      have : n ∈ TypeSig.namesIn r.interfaces := TypeSig.mem_namesIn.mpr ⟨sig, hmem, hn⟩
      exact hnames hr (by simp [Record.Class.names, this])
  | typeParameters hp hn =>
      obtain ⟨r, hr, hmem⟩ := mem_ofClass hp
      have : n ∈ r.typeParameters.flatMap TypeParam.names := List.mem_flatMap_of_mem hmem hn
      exact hnames hr (by simp only [Record.Class.names, List.mem_append, this]; tauto)
  | enclosing he =>
      obtain ⟨r, hr, hmem⟩ := mem_of_bind_record? he
      exact hnames hr (by simp [Record.Class.names, hmem])
  | field hr hn =>
      obtain ⟨r, hr, hmem⟩ := mem_ofClass hr
      have : n ∈ r.fields.flatMap Record.Field.names := List.mem_flatMap_of_mem hmem hn
      exact hnames hr (by simp only [Record.Class.names, List.mem_append, this]; tauto)
  | codeUnit hr hn =>
      obtain ⟨r, hr, hmem⟩ := mem_codeUnits hr
      exact hnames hr (Record.Class.mem_names_of_codeUnit hmem hn)
  | annot hr hn =>
      obtain ⟨r, hr, hmem⟩ := mem_ofClass hr
      have : n ∈ r.annotations.flatMap Record.Annot.names := List.mem_flatMap_of_mem hmem hn
      exact hnames hr (by simp only [Record.Class.names, List.mem_append, this]; tauto)
  | use hr hn =>
      rw [uses_context] at hr
      obtain ⟨r, hmem, u, hunit, hr⟩ := mem_ofUnit hr
      refine hnames hmem (List.mem_append_right _ ?_)
      exact List.mem_flatMap_of_mem (List.mem_flatMap_of_mem hunit hr) hn

end Batch

end ClassAtlas
