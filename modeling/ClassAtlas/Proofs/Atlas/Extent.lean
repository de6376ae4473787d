import ClassAtlas.Atlas.Basic
import Mathlib.Tactic

/-!
# Extents

Everything in an atlas refers to classes, members, accesses and type variables by position.  An
extent says how many positions of each kind there are.

* `Extent`, `Atlas.extent` — how many there are.
* `TypeRef.Within`, `Annot.Within`, `TypeVar.Within`, `Member.Within`, `Access.Within`,
  `ClassNode.Within` — all that something refers to is there.
* `ClassNode.Within.mono` and the like — it stays there while the extent grows.
-/

namespace ClassAtlas

/-- How many classes, members, accesses and type variables there are. -/
structure Extent where
  classes : ℕ
  members : ℕ
  accesses : ℕ
  vars : ℕ

namespace Extent

/-- There are at least as many of each kind. -/
structure Le (e e' : Extent) : Prop where
  classes : e.classes ≤ e'.classes
  members : e.members ≤ e'.members
  accesses : e.accesses ≤ e'.accesses
  vars : e.vars ≤ e'.vars

lemma Le.refl (e : Extent) : Le e e :=
  ⟨le_rfl, le_rfl, le_rfl, le_rfl⟩

end Extent

/-- The extent of an atlas. -/
def Atlas.extent (a : Atlas) : Extent :=
  ⟨a.classes.size, a.members.size, a.accesses.size, a.typeVars.size⟩

/-! ## Types -/

mutual

/-- The positions in a type are below these numbers. -/
def TypeRef.Within (classes vars : ℕ) : TypeRef → Prop
  | .cls id => id.index < classes
  | .parameterized raw arguments => raw.index < classes ∧ TypeRef.AllWithin classes vars arguments
  | .variable id => id.index < vars
  | .wildcard upper lower =>
      TypeRef.AllWithin classes vars upper ∧ TypeRef.AllWithin classes vars lower
  | .genericArray component erasure => component.Within classes vars ∧ erasure.index < classes

def TypeRef.AllWithin (classes vars : ℕ) : List TypeRef → Prop
  | [] => True
  | type :: types => type.Within classes vars ∧ TypeRef.AllWithin classes vars types

end

namespace TypeRef

variable {classes vars classes' vars' : ℕ}

mutual

lemma Within.mono (hc : classes ≤ classes') (hv : vars ≤ vars') :
    ∀ {type : TypeRef}, type.Within classes vars → type.Within classes' vars'
  | .cls _, h => lt_of_lt_of_le h hc
  | .parameterized _ _, h => ⟨h.1.trans_le hc, AllWithin.mono hc hv h.2⟩
  | .variable _, h => lt_of_lt_of_le h hv
  | .wildcard _ _, h => ⟨AllWithin.mono hc hv h.1, AllWithin.mono hc hv h.2⟩
  | .genericArray _ _, h => ⟨Within.mono hc hv h.1, h.2.trans_le hc⟩

lemma AllWithin.mono (hc : classes ≤ classes') (hv : vars ≤ vars') :
    ∀ {types : List TypeRef}, AllWithin classes vars types → AllWithin classes' vars' types
  | [], _ => trivial
  | _ :: _, h => ⟨Within.mono hc hv h.1, AllWithin.mono hc hv h.2⟩

end

lemma allWithin_iff {types : List TypeRef} :
    AllWithin classes vars types ↔ ∀ type ∈ types, type.Within classes vars := by
  induction types with
  | nil => simp [AllWithin]
  | cons type types ih => simp [AllWithin, ih]

lemma Within.rawClass_lt {type : TypeRef} (h : type.Within classes vars) {id : ClassId}
    (hraw : type.rawClass? = some id) : id.index < classes := by
  cases type with
  | cls _ =>
      cases hraw
      exact h
  | parameterized _ _ =>
      cases hraw
      exact h.1
  | _ => cases hraw

end TypeRef

/-! ## Annotations and type variables -/

variable {e e' : Extent}

/-- The element that an annotation stands on is there. -/
def Element.Within (e : Extent) : Element → Prop
  | .cls id => id.index < e.classes
  | .member id => id.index < e.members
  | .parameter id _ => id.index < e.members

lemma Element.Within.mono (hle : e.Le e') {x : Element} (h : x.Within e) : x.Within e' := by
  cases x with
  | cls _ => exact lt_of_lt_of_le h hle.classes
  | member _ => exact lt_of_lt_of_le h hle.members
  | parameter _ _ => exact lt_of_lt_of_le h hle.members

structure Annot.Within (e : Extent) (x : Annot) : Prop where
  type : x.type.index < e.classes
  element : x.element.Within e
  values : ∀ c ∈ x.memberTypes, c.index < e.classes

lemma Annot.Within.mono (hle : e.Le e') {x : Annot} (h : x.Within e) : x.Within e' where
  type := h.type.trans_le hle.classes
  element := h.element.mono hle
  values c hc := (h.values c hc).trans_le hle.classes

/-- The owner of a type variable is there. -/
def VarOwner.Within (e : Extent) : VarOwner → Prop
  | .cls id => id.index < e.classes
  | .codeUnit id => id.index < e.members

lemma VarOwner.Within.mono (hle : e.Le e') {x : VarOwner} (h : x.Within e) : x.Within e' := by
  cases x with
  | cls _ => exact lt_of_lt_of_le h hle.classes
  | codeUnit _ => exact lt_of_lt_of_le h hle.members

structure TypeVar.Within (e : Extent) (v : TypeVar) : Prop where
  owner : v.owner.Within e
  bounds : ∀ bound ∈ v.bounds, bound.Within e.classes e.vars

lemma TypeVar.Within.mono (hle : e.Le e') {v : TypeVar} (h : v.Within e) : v.Within e' where
  owner := h.owner.mono hle
  bounds bound hb := (h.bounds bound hb).mono hle.classes hle.vars

/-! ## Members and accesses -/

structure Param.Within (e : Extent) (p : Param) : Prop where
  type : p.type.Within e.classes e.vars
  raw : p.raw.index < e.classes
  annotations : ∀ x ∈ p.annotations, x.Within e

lemma Param.Within.mono (hle : e.Le e') {p : Param} (h : p.Within e) : p.Within e' where
  type := h.type.mono hle.classes hle.vars
  raw := h.raw.trans_le hle.classes
  annotations x hx := (h.annotations x hx).mono hle

structure CodeUnit.Within (e : Extent) (u : CodeUnit) : Prop where
  returns : ∀ type ∈ u.returns, type.Within e.classes e.vars
  rawReturns : ∀ c ∈ u.rawReturns, c.index < e.classes
  parameters : ∀ p ∈ u.parameters, p.Within e
  throws : ∀ c ∈ u.throws, c.index < e.classes
  typeParameters : ∀ v ∈ u.typeParameters, v.index < e.vars
  accesses : ∀ i ∈ u.accesses, i.index < e.accesses
  catchBlocks : ∀ b ∈ u.catchBlocks, ∀ c ∈ b.types, c.index < e.classes
  instanceofChecks : ∀ x ∈ u.instanceofChecks, x.target.index < e.classes
  classObjects : ∀ x ∈ u.classObjects, x.target.index < e.classes

lemma CodeUnit.Within.mono (hle : e.Le e') {u : CodeUnit} (h : u.Within e) : u.Within e' where
  returns type ht := (h.returns type ht).mono hle.classes hle.vars
  rawReturns c hc := (h.rawReturns c hc).trans_le hle.classes
  parameters p hp := (h.parameters p hp).mono hle
  throws c hc := (h.throws c hc).trans_le hle.classes
  typeParameters v hv := (h.typeParameters v hv).trans_le hle.vars
  accesses i hi := (h.accesses i hi).trans_le hle.accesses
  catchBlocks b hb c hc := (h.catchBlocks b hb c hc).trans_le hle.classes
  instanceofChecks x hx := (h.instanceofChecks x hx).trans_le hle.classes
  classObjects x hx := (h.classObjects x hx).trans_le hle.classes

/-- What belongs to the kind of a member is there. -/
def MemberBody.Within (e : Extent) : MemberBody → Prop
  | .field type raw => type.Within e.classes e.vars ∧ raw.index < e.classes
  | .code _ unit => unit.Within e

lemma MemberBody.Within.mono (hle : e.Le e') {b : MemberBody} (h : b.Within e) : b.Within e' := by
  cases b with
  | field _ _ => exact ⟨h.1.mono hle.classes hle.vars, h.2.trans_le hle.classes⟩
  | code _ _ => exact CodeUnit.Within.mono hle h

structure Member.Within (e : Extent) (m : Member) : Prop where
  owner : m.owner.index < e.classes
  annotations : ∀ x ∈ m.annotations, x.Within e
  body : m.body.Within e

lemma Member.Within.mono (hle : e.Le e') {m : Member} (h : m.Within e) : m.Within e' where
  owner := h.owner.trans_le hle.classes
  annotations x hx := (h.annotations x hx).mono hle
  body := h.body.mono hle

structure Access.Within (e : Extent) (x : Access) : Prop where
  origin : x.origin.index < e.members
  owner : x.target.owner.index < e.classes
  parameters : ∀ c ∈ x.target.parameters, c.index < e.classes
  returns : x.target.returns.index < e.classes

lemma Access.Within.mono (hle : e.Le e') {x : Access} (h : x.Within e) : x.Within e' where
  origin := h.origin.trans_le hle.members
  owner := h.owner.trans_le hle.classes
  parameters c hc := (h.parameters c hc).trans_le hle.classes
  returns := h.returns.trans_le hle.classes

/-! ## Classes -/

structure ClassNode.Within (e : Extent) (c : ClassNode) : Prop where
  component : ∀ d ∈ c.component, d.index < e.classes
  superclass : ∀ type ∈ c.superclass, type.Within e.classes e.vars
  interfaces : ∀ type ∈ c.interfaces, type.Within e.classes e.vars
  typeParameters : ∀ v ∈ c.typeParameters, v.index < e.vars
  subclasses : ∀ d ∈ c.subclasses, d.index < e.classes
  enclosingClass : ∀ d ∈ c.enclosingClass, d.index < e.classes
  members : ∀ m ∈ c.members, m.index < e.members
  annotations : ∀ x ∈ c.annotations, x.Within e

lemma ClassNode.Within.mono (hle : e.Le e') {c : ClassNode} (h : c.Within e) : c.Within e' where
  component d hd := (h.component d hd).trans_le hle.classes
  superclass type ht := (h.superclass type ht).mono hle.classes hle.vars
  interfaces type ht := (h.interfaces type ht).mono hle.classes hle.vars
  typeParameters v hv := (h.typeParameters v hv).trans_le hle.vars
  subclasses d hd := (h.subclasses d hd).trans_le hle.classes
  enclosingClass d hd := (h.enclosingClass d hd).trans_le hle.classes
  members m hm := (h.members m hm).trans_le hle.members
  annotations x hx := (h.annotations x hx).mono hle

end ClassAtlas
