import ClassAtlas.Atlas.TypeRef
import ClassAtlas.Proofs.Record.Names

/-!
# What is recorded and what is linked

Records name classes and type variables, linked types and annotations refer to them.  The relations
of this file say that the two have the same shape, given which names stand for which classes and
variables.  The more names are known, the more is related, so what is linked once stays linked.

* `TypeSig.Describes` — a signature and a type.
* `Record.Annot.Describes` — a recorded annotation and a linked one.
-/

namespace ClassAtlas

variable {N N' : String → ClassId → Prop} {V V' : String → VarId → Prop}

/-! ## Types -/

mutual

/-- A signature describes a type if `N` relates its class names and `V` its variables to those of
the type.  What a generic array erases to is not recorded. -/
inductive TypeSig.Describes (N : String → ClassId → Prop) (V : String → VarId → Prop) :
    TypeSig → TypeRef → Prop
  | cls {name : String} {id : ClassId} (h : N name id) : TypeSig.Describes N V (.cls name) (.cls id)
  | parameterized {raw : String} {id : ClassId} {arguments : List TypeSig} {types : List TypeRef}
      (h : N raw id) (harguments : TypeSig.DescribesAll N V arguments types) :
      TypeSig.Describes N V (.parameterized raw arguments) (.parameterized id types)
  | variable {name : String} {v : VarId} (h : V name v) :
      TypeSig.Describes N V (.variable name) (.variable v)
  | wildcard {upper lower : List TypeSig} {types types' : List TypeRef}
      (hupper : TypeSig.DescribesAll N V upper types)
      (hlower : TypeSig.DescribesAll N V lower types') :
      TypeSig.Describes N V (.wildcard upper lower) (.wildcard types types')
  | genericArray {component : TypeSig} {type : TypeRef} {erasure : ClassId}
      (h : TypeSig.Describes N V component type) :
      TypeSig.Describes N V (.genericArray component) (.genericArray type erasure)

inductive TypeSig.DescribesAll (N : String → ClassId → Prop) (V : String → VarId → Prop) :
    List TypeSig → List TypeRef → Prop
  | nil : TypeSig.DescribesAll N V [] []
  | cons {sig : TypeSig} {sigs : List TypeSig} {type : TypeRef} {types : List TypeRef}
      (h : TypeSig.Describes N V sig type) (hs : TypeSig.DescribesAll N V sigs types) :
      TypeSig.DescribesAll N V (sig :: sigs) (type :: types)

end

namespace TypeSig

mutual

lemma Describes.imp (hN : ∀ n id, N n id → N' n id) (hV : ∀ n v, V n v → V' n v) :
    ∀ {sig : TypeSig} {type : TypeRef}, Describes N V sig type → Describes N' V' sig type
  | _, _, .cls h => .cls (hN _ _ h)
  | _, _, .parameterized h harguments => .parameterized (hN _ _ h) (harguments.imp hN hV)
  | _, _, .variable h => .variable (hV _ _ h)
  | _, _, .wildcard hupper hlower => .wildcard (hupper.imp hN hV) (hlower.imp hN hV)
  | _, _, .genericArray h => .genericArray (h.imp hN hV)

lemma DescribesAll.imp (hN : ∀ n id, N n id → N' n id) (hV : ∀ n v, V n v → V' n v) :
    ∀ {sigs : List TypeSig} {types : List TypeRef},
      DescribesAll N V sigs types → DescribesAll N' V' sigs types
  | _, _, .nil => .nil
  | _, _, .cons h hs => .cons (h.imp hN hV) (hs.imp hN hV)

end

lemma describesAll_iff {sigs : List TypeSig} {types : List TypeRef} :
    DescribesAll N V sigs types ↔ List.Forall₂ (Describes N V) sigs types := by
  constructor
  · intro h
    induction sigs generalizing types with
    | nil =>
        cases h
        exact .nil
    | cons sig sigs ih =>
        cases h with
        | cons h hs => exact .cons h (ih hs)
  · intro h
    induction h with
    | nil => exact .nil
    | cons h _ ih => exact .cons h ih

end TypeSig

/-! ## Annotations -/

namespace Record

mutual

/-- A recorded value describes a linked one: class literals, the types of enum constants and those
of nested annotations are related by `N`, and everything else is the same. -/
inductive AnnotValue.Describes (N : String → ClassId → Prop) :
    Record.AnnotValue → ClassAtlas.AnnotValue → Prop
  | boolean (value : Bool) : AnnotValue.Describes N (.boolean value) (.boolean value)
  | byte (value : Int) : AnnotValue.Describes N (.byte value) (.byte value)
  | char (value : Char) : AnnotValue.Describes N (.char value) (.char value)
  | short (value : Int) : AnnotValue.Describes N (.short value) (.short value)
  | int (value : Int) : AnnotValue.Describes N (.int value) (.int value)
  | long (value : Int) : AnnotValue.Describes N (.long value) (.long value)
  | float (value : Decimal.Binary32) : AnnotValue.Describes N (.float value) (.float value)
  | double (value : Decimal.Binary64) : AnnotValue.Describes N (.double value) (.double value)
  | string (value : String) : AnnotValue.Describes N (.string value) (.string value)
  | cls {typeName : String} {id : ClassId} (h : N typeName id) :
      AnnotValue.Describes N (.cls typeName) (.cls id)
  | enumConstant {enumType : String} {id : ClassId} (h : N enumType id) (name : String) :
      AnnotValue.Describes N (.enumConstant enumType name) (.enumConstant id name)
  | nested {type : String} {id : ClassId} {properties : List (String × Record.AnnotValue)}
      {linked : List (String × ClassAtlas.AnnotValue)} (h : N type id)
      (hproperties : PropertiesDescribe N properties linked) :
      AnnotValue.Describes N (.nested type properties) (.nested id linked)
  | array {items : List Record.AnnotValue} {linked : List ClassAtlas.AnnotValue}
      (h : ValuesDescribe N items linked) : AnnotValue.Describes N (.array items) (.array linked)

inductive PropertiesDescribe (N : String → ClassId → Prop) :
    List (String × Record.AnnotValue) → List (String × ClassAtlas.AnnotValue) → Prop
  | nil : PropertiesDescribe N [] []
  | cons {name : String} {value : Record.AnnotValue} {value' : ClassAtlas.AnnotValue}
      {rest : List (String × Record.AnnotValue)} {rest' : List (String × ClassAtlas.AnnotValue)}
      (h : AnnotValue.Describes N value value') (hs : PropertiesDescribe N rest rest') :
      PropertiesDescribe N ((name, value) :: rest) ((name, value') :: rest')

inductive ValuesDescribe (N : String → ClassId → Prop) :
    List Record.AnnotValue → List ClassAtlas.AnnotValue → Prop
  | nil : ValuesDescribe N [] []
  | cons {value : Record.AnnotValue} {value' : ClassAtlas.AnnotValue}
      {rest : List Record.AnnotValue} {rest' : List ClassAtlas.AnnotValue}
      (h : AnnotValue.Describes N value value') (hs : ValuesDescribe N rest rest') :
      ValuesDescribe N (value :: rest) (value' :: rest')

end

mutual

lemma AnnotValue.Describes.imp (hN : ∀ n id, N n id → N' n id) :
    ∀ {value : Record.AnnotValue} {linked : ClassAtlas.AnnotValue},
      AnnotValue.Describes N value linked → AnnotValue.Describes N' value linked
  | _, _, .boolean value => .boolean value
  | _, _, .byte value => .byte value
  | _, _, .char value => .char value
  | _, _, .short value => .short value
  | _, _, .int value => .int value
  | _, _, .long value => .long value
  | _, _, .float value => .float value
  | _, _, .double value => .double value
  | _, _, .string value => .string value
  | _, _, .cls h => .cls (hN _ _ h)
  | _, _, .enumConstant h name => .enumConstant (hN _ _ h) name
  | _, _, .nested h hproperties => .nested (hN _ _ h) (hproperties.imp hN)
  | _, _, .array h => .array (h.imp hN)

lemma PropertiesDescribe.imp (hN : ∀ n id, N n id → N' n id) :
    ∀ {properties : List (String × Record.AnnotValue)}
      {linked : List (String × ClassAtlas.AnnotValue)},
      PropertiesDescribe N properties linked → PropertiesDescribe N' properties linked
  | _, _, .nil => .nil
  | _, _, .cons h hs => .cons (h.imp hN) (hs.imp hN)

lemma ValuesDescribe.imp (hN : ∀ n id, N n id → N' n id) :
    ∀ {values : List Record.AnnotValue} {linked : List ClassAtlas.AnnotValue},
      ValuesDescribe N values linked → ValuesDescribe N' values linked
  | _, _, .nil => .nil
  | _, _, .cons h hs => .cons (h.imp hN) (hs.imp hN)

end

mutual

/-- The classes that a linked value mentions are those that the recorded names stand for. -/
lemma AnnotValue.Describes.forall₂_types :
    ∀ {value : Record.AnnotValue} {linked : ClassAtlas.AnnotValue},
      AnnotValue.Describes N value linked → List.Forall₂ N value.names linked.types
  | _, _, .boolean _ | _, _, .byte _ | _, _, .char _ | _, _, .short _ | _, _, .int _
  | _, _, .long _ | _, _, .float _ | _, _, .double _ | _, _, .string _ => .nil
  | _, _, .cls h => .cons h .nil
  | _, _, .enumConstant h _ => .cons h .nil
  | _, _, .nested h hproperties => .cons h hproperties.forall₂_types
  | _, _, .array h => h.forall₂_types

lemma PropertiesDescribe.forall₂_types :
    ∀ {properties : List (String × Record.AnnotValue)}
      {linked : List (String × ClassAtlas.AnnotValue)}, PropertiesDescribe N properties linked →
      List.Forall₂ N (AnnotValue.namesInProperties properties)
        (ClassAtlas.AnnotValue.propertyTypes linked)
  | _, _, .nil => .nil
  | _, _, .cons h hs => List.rel_append h.forall₂_types hs.forall₂_types

lemma ValuesDescribe.forall₂_types :
    ∀ {values : List Record.AnnotValue} {linked : List ClassAtlas.AnnotValue},
      ValuesDescribe N values linked →
      List.Forall₂ N (AnnotValue.namesIn values) (ClassAtlas.AnnotValue.listTypes linked)
  | _, _, .nil => .nil
  | _, _, .cons h hs => List.rel_append h.forall₂_types hs.forall₂_types

end

/-- A recorded annotation describes a linked one that stands on an element. -/
structure Annot.Describes (N : String → ClassId → Prop) (element : Element) (r : Record.Annot)
    (x : ClassAtlas.Annot) : Prop where
  type : N r.type x.type
  element : x.element = element
  properties : PropertiesDescribe N r.properties x.properties

lemma Annot.Describes.imp {element : Element} {r : Record.Annot} {x : ClassAtlas.Annot}
    (h : r.Describes N element x) (hN : ∀ n id, N n id → N' n id) : r.Describes N' element x :=
  ⟨hN _ _ h.type, h.element, h.properties.imp hN⟩

end Record

end ClassAtlas
