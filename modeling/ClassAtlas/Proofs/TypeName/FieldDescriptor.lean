import ClassAtlas.Proofs.TypeName.Reading
import ClassAtlas.TypeName.ClassFile

/-!
# Field descriptors

A field descriptor is the same whether an array is written with brackets behind its component or by
its binary name.

* `Canonical` — a type name in binary form.
* `fieldDescriptor_brackets`, `fieldDescriptor_array` — one array layer adds one bracket.
-/

namespace ClassAtlas

open Registry Text

/-- A type name in binary form. -/
def Canonical (name : String) : Prop :=
  ∃ d : Descriptor, d.Proper ∧ d.name = name

/-- The name of a class or of a primitive type is in binary form. -/
lemma canonical_of_plain {name : String}
    (h : (Descriptor.object name).Proper ∨ (Primitive.ofKeyword? name).isSome) :
    Canonical name := by
  rcases h with h | h
  · exact ⟨.object name, h, rfl⟩
  · obtain ⟨p, hp⟩ := Option.isSome_iff_exists.mp h
    exact ⟨.primitive p, trivial, (Primitive.eq_keyword_of_ofKeyword? hp).symm⟩

/-- Brackets behind a name stand for one array layer. -/
lemma fieldDescriptorChars_brackets (name : List Char) :
    fieldDescriptorChars (name ++ ['[', ']']) = '[' :: fieldDescriptorChars name := by
  have hrev : (name ++ ['[', ']']).reverse = ']' :: '[' :: name.reverse := by simp
  rw [fieldDescriptorChars, hrev, fieldDescriptorBackwards, fieldDescriptorChars]

lemma fieldDescriptorChars_element {name : List Char}
    (h : ∀ front, name.reverse ≠ ']' :: '[' :: front) :
    fieldDescriptorChars name = elementDescriptorChars name := by
  rw [fieldDescriptorChars, fieldDescriptorBackwards, List.reverse_reverse]
  exact h

lemma fieldDescriptor_brackets (name : String) :
    fieldDescriptor (name ++ "[]") = "[" ++ fieldDescriptor name := by
  refine String.toList_inj.mp ?_
  have htext : (name ++ "[]").toList = name.toList ++ ['[', ']'] := by simp
  rw [fieldDescriptor, htext, fieldDescriptorChars_brackets]
  simp [fieldDescriptor]

/-- A name that opens with a bracket and has none behind it is a descriptor but for its dots. -/
lemma fieldDescriptorChars_open {rest : List Char}
    (h : ∀ front, ('[' :: rest).reverse ≠ ']' :: '[' :: front) :
    fieldDescriptorChars ('[' :: rest) = replaceChar '.' '/' ('[' :: rest) := by
  rw [fieldDescriptorChars_element h, elementDescriptorChars]

/-- Other names are those of primitive types or of classes. -/
lemma fieldDescriptorChars_plain {name : List Char}
    (h : ∀ front, name.reverse ≠ ']' :: '[' :: front) (hopen : ∀ rest, name ≠ '[' :: rest) :
    fieldDescriptorChars name = match Primitive.ofKeyword? (String.ofList name) with
      | some p => [p.code]
      | none => 'L' :: replaceChar '.' '/' name ++ [';'] := by
  rw [fieldDescriptorChars_element h]
  unfold elementDescriptorChars
  split
  · exact absurd rfl (hopen _)
  · rfl

lemma reverse_name_array (d : Descriptor) (front : List Char) :
    (Descriptor.array d).name.toList.reverse ≠ ']' :: '[' :: front := by
  obtain ⟨rest, hrest, hne, hlast, -⟩ := Descriptor.toList_name_array d
  obtain ⟨c, cs, rfl⟩ := List.exists_cons_of_ne_nil hne
  intro hrev
  refine hlast ?_
  rw [← List.getLast?_cons_cons, ← hrest, List.getLast?_eq_head?_reverse, hrev]
  rfl

/-- The binary name of an array is a descriptor but for its dots. -/
lemma fieldDescriptorChars_array (d : Descriptor) :
    fieldDescriptorChars (Descriptor.array d).name.toList =
      replaceChar '.' '/' (Descriptor.array d).name.toList := by
  have hno := reverse_name_array d
  obtain ⟨rest, hrest, -⟩ := Descriptor.toList_name_array d
  rw [hrest] at hno ⊢
  exact fieldDescriptorChars_open hno

lemma fieldDescriptorChars_primitive (p : Primitive) :
    fieldDescriptorChars p.keyword.toList = [p.code] := by
  rw [fieldDescriptorChars_plain (by cases p <;> simp [Primitive.keyword])
    (by cases p <;> simp [Primitive.keyword]), String.ofList_toList, Primitive.ofKeyword?_keyword]

lemma fieldDescriptorChars_object {className : String} (h : (Descriptor.object className).Proper) :
    fieldDescriptorChars className.toList =
      'L' :: replaceChar '.' '/' className.toList ++ [';'] := by
  obtain ⟨hkeyword, hclose, hopen, -⟩ := spell_eq_className.mp h.2
  rw [fieldDescriptorChars_plain hclose hopen, hkeyword]

/-- **The descriptor of an array is that of its component behind a bracket.** -/
theorem fieldDescriptor_array {d : Descriptor} (hd : d.Proper) :
    fieldDescriptor (Descriptor.array d).name = "[" ++ fieldDescriptor d.name := by
  refine String.toList_inj.mp ?_
  rw [fieldDescriptor, fieldDescriptorChars_array]
  cases d with
  | primitive p =>
      rw [fieldDescriptor, Descriptor.name, fieldDescriptorChars_primitive,
        Descriptor.toList_name_array_primitive]
      cases p <;> simp [replaceChar, Primitive.code]
  | object className =>
      rw [fieldDescriptor, Descriptor.name, fieldDescriptorChars_object hd,
        Descriptor.toList_name_array_object]
      simp [replaceChar]
  | array component =>
      rw [fieldDescriptor, fieldDescriptorChars_array, Descriptor.toList_name_array_array]
      simp [replaceChar]

end ClassAtlas
