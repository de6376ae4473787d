import ClassAtlas.Proofs.Text.Separators
import ClassAtlas.Proofs.TypeName.FieldDescriptor
import ClassAtlas.Proofs.TypeName.NormalForm

/-!
# Method descriptors

A method descriptor writes the types of a signature one behind the other, with nothing in between.
It can be taken apart again, as no field descriptor is the beginning of another one: a bracket has
one more type behind it, a primitive type is a single letter, and a class ends at the first `;`.
Only a class with a `;` in its name goes on behind it.

* `Registry.Issued` — the types that registries give out; these are the proper ones.
* `Descriptor.fieldText` — the field descriptor, from the type and not from a name.
* `toList_fieldDescriptor_name`, `toList_fieldDescriptor_fullName` — both names of a type lead to
  it.
* `Descriptor.Delimited.fieldText_append_inj` — **a field descriptor shows where it ends**, one case
  for each form of a type.
* `flatMap_fieldText_inj` — the types of a list can be read off their field descriptors.
* `fieldDescriptor_agrees_methodDescriptor_separates` — **both names of a type have one field
  descriptor, and no two signatures have the same method descriptor**.
-/

namespace ClassAtlas

open Registry Text

/-! ## The types that registries give out -/

namespace Registry

variable {d : Descriptor}

/-- A type that some registry remembers.  A registry remembers every type that it answers with. -/
def Issued (d : Descriptor) : Prop :=
  ∃ (r : Registry) (name : String), Reachable r ∧ r.get? name = some d

lemma Issued.proper (h : Issued d) : d.Proper := by
  obtain ⟨r, name, hr, hget⟩ := h
  exact (hr.truthful.denotes hget).proper

/-- A proper type is given out for its canonical name. -/
lemma issued_of_proper (hd : d.Proper) : Issued d := by
  obtain ⟨r, h⟩ := grounded_empty.describe_fullName hd
  exact ⟨r, _, .describe .empty h, get?_of_describe h⟩

end Registry

/-! ## Field descriptors of types -/

namespace Descriptor

/-- The field descriptor of a type. -/
def fieldText : Descriptor → List Char
  | .primitive p => [p.code]
  | .object className => 'L' :: (replaceChar '.' '/' className.toList ++ [';'])
  | .array component => '[' :: component.fieldText

end Descriptor

/-- The binary name of a type leads to its field descriptor. -/
lemma toList_fieldDescriptor_name {d : Descriptor} (hd : d.Proper) :
    (fieldDescriptor d.name).toList = d.fieldText := by
  induction d with
  | primitive p =>
      rw [fieldDescriptor, String.toList_ofList]
      exact fieldDescriptorChars_primitive p
  | object className =>
      rw [fieldDescriptor, String.toList_ofList]
      exact fieldDescriptorChars_object hd
  | array component ih =>
      have hcomponent : component.Proper := hd
      rw [fieldDescriptor_array hcomponent, String.toList_append, ih hcomponent]
      rfl

/-- The canonical name of a type leads to its field descriptor too. -/
lemma toList_fieldDescriptor_fullName {d : Descriptor} (hd : d.Proper) :
    (fieldDescriptor d.fullName).toList = d.fieldText := by
  induction d with
  | primitive p => exact toList_fieldDescriptor_name (d := .primitive p) hd
  | object className => exact toList_fieldDescriptor_name (d := .object className) hd
  | array component ih =>
      have hcomponent : component.Proper := hd
      rw [Descriptor.fullName, fieldDescriptor_brackets, String.toList_append, ih hcomponent]
      rfl

/-! ## Where a field descriptor ends -/

/-- The letter of a primitive type is no sign that another type or the end of a list starts with. -/
lemma Primitive.code_ne (p : Primitive) : p.code ≠ '[' ∧ p.code ≠ 'L' ∧ p.code ≠ ')' := by
  cases p <;> decide

lemma Primitive.ofCode?_code (p : Primitive) : ofCode? p.code = some p := by
  cases p <;> decide

lemma Primitive.code_inj {p q : Primitive} (h : p.code = q.code) : p = q := by
  have hread : some p = some q := by rw [← ofCode?_code p, h, ofCode?_code]
  exact Option.some_inj.mp hread

/-- Dots become slashes and slashes dots: what was a dot is one again. -/
lemma replaceChar_slash_dot (cs : List Char) :
    replaceChar '/' '.' (replaceChar '.' '/' cs) = replaceChar '/' '.' cs := by
  rw [replaceChar, replaceChar, replaceChar, List.map_map]
  refine List.map_congr_left fun c _ => ?_
  by_cases hdot : c = '.'
  · subst hdot
    rfl
  · simp only [Function.comp_apply, if_neg hdot]

namespace Descriptor

variable {d e : Descriptor} {s t : List Char}

/-- The name of a class has no slashes, so that it can be read off its field descriptor. -/
lemma replaceChar_inj_of_proper {className className' : String} (h : (object className).Proper)
    (h' : (object className').Proper)
    (heq : replaceChar '.' '/' className.toList = replaceChar '.' '/' className'.toList) :
    className = className' := by
  obtain ⟨-, -, -, -, hslash, -⟩ := spell_eq_className.mp h.2
  obtain ⟨-, -, -, -, hslash', -⟩ := spell_eq_className.mp h'.2
  refine String.toList_inj.mp ?_
  rw [hslash, hslash', ← replaceChar_slash_dot, heq, replaceChar_slash_dot]

/-- A proper type whose class, if it has one, has no `;` in its name. -/
structure Delimited (d : Descriptor) : Prop where
  proper : d.Proper
  fullName : ';' ∉ d.fullName.toList

lemma Delimited.component (h : (array d).Delimited) : d.Delimited := by
  refine ⟨h.proper, fun hmem => h.fullName ?_⟩
  rw [toList_fullName_array]
  exact List.mem_append_left _ hmem

lemma Delimited.not_mem_replaceChar {className : String} (h : (object className).Delimited) :
    ';' ∉ replaceChar '.' '/' className.toList := by
  intro hmem
  obtain ⟨c, hc, heq⟩ := List.mem_map.mp hmem
  split_ifs at heq with hdot
  · exact absurd heq (by decide)
  · exact h.fullName (heq ▸ hc)

/-- **A field descriptor shows where it ends**: a text opens with one of them at most. -/
theorem Delimited.fieldText_append_inj (hd : d.Delimited) (he : e.Delimited)
    (h : d.fieldText ++ s = e.fieldText ++ t) : d = e ∧ s = t := by
  induction d generalizing e with
  | primitive p =>
      cases e with
      | primitive q =>
          obtain ⟨hcode, hrest⟩ := List.cons.inj h
          exact ⟨congrArg primitive (Primitive.code_inj hcode), hrest⟩
      | object className => exact absurd (List.cons.inj h).1 p.code_ne.2.1
      | array component => exact absurd (List.cons.inj h).1 p.code_ne.1
  | object className =>
      cases e with
      | primitive q => exact absurd (List.cons.inj h).1.symm q.code_ne.2.1
      | object className' =>
          simp only [fieldText, List.cons_append, List.cons.injEq, true_and, List.append_assoc,
            List.nil_append] at h
          -- both names end at the first `;`, and have no slashes but those that were dots
          obtain ⟨hname, hrest⟩ :=
            eq_of_append_cons_first hd.not_mem_replaceChar he.not_mem_replaceChar h
          exact ⟨congrArg object (replaceChar_inj_of_proper hd.proper he.proper hname), hrest⟩
      | array component => exact absurd (List.cons.inj h).1 (by decide)
  | array component ih =>
      cases e with
      | primitive q => exact absurd (List.cons.inj h).1.symm q.code_ne.1
      | object className => exact absurd (List.cons.inj h).1 (by decide)
      | array component' =>
          obtain ⟨rfl, hrest⟩ := ih hd.component he.component (List.cons.inj h).2
          exact ⟨rfl, hrest⟩

lemma fieldText_ne_close (d : Descriptor) (s t : List Char) : d.fieldText ++ s ≠ ')' :: t := by
  intro h
  cases d with
  | primitive p => exact p.code_ne.2.2 (List.cons.inj h).1
  | object className => exact absurd (List.cons.inj h).1 (by decide)
  | array component => exact absurd (List.cons.inj h).1 (by decide)

end Descriptor

/-! ## Signatures -/

/-- The types of a list can be read off their field descriptors, up to the closing parenthesis. -/
lemma flatMap_fieldText_inj {ds es : List Descriptor} {s t : List Char}
    (hds : ∀ d ∈ ds, d.Delimited) (hes : ∀ e ∈ es, e.Delimited)
    (h : ds.flatMap Descriptor.fieldText ++ ')' :: s =
      es.flatMap Descriptor.fieldText ++ ')' :: t) : ds = es ∧ s = t := by
  induction ds generalizing es with
  | nil =>
      cases es with
      | nil => exact ⟨rfl, (List.cons.inj h).2⟩
      | cons e es =>
          rw [List.flatMap_cons, List.append_assoc] at h
          exact absurd h.symm (e.fieldText_ne_close _ _)
  | cons d ds ih =>
      cases es with
      | nil =>
          rw [List.flatMap_cons, List.append_assoc] at h
          exact absurd h (d.fieldText_ne_close _ _)
      | cons e es =>
          rw [List.forall_mem_cons] at hds hes
          rw [List.flatMap_cons, List.flatMap_cons, List.append_assoc, List.append_assoc] at h
          obtain ⟨rfl, hrest⟩ := hds.1.fieldText_append_inj hes.1 h
          obtain ⟨rfl, hend⟩ := ih hds.2 hes.2 hrest
          exact ⟨rfl, hend⟩

/-- The method descriptor of a signature of types. -/
lemma toList_methodDescriptor {ds : List Descriptor} {d : Descriptor} (hds : ∀ e ∈ ds, e.Proper)
    (hd : d.Proper) :
    (methodDescriptor (ds.map Descriptor.name) d.name).toList =
      '(' :: (ds.flatMap Descriptor.fieldText ++ ')' :: d.fieldText) := by
  have hparameters : ((ds.map Descriptor.name).map fieldDescriptor).flatMap String.toList =
      ds.flatMap Descriptor.fieldText := by
    rw [List.map_map, List.flatMap_map]
    exact List.flatMap_congr fun e he => toList_fieldDescriptor_name (hds e he)
  simp only [methodDescriptor, String.toList_append, String.toList_join, hparameters,
    toList_fieldDescriptor_name hd]
  simp

/-- **The types of a signature can be read off its method descriptor.** -/
theorem methodDescriptor_inj {ds es : List Descriptor} {d e : Descriptor}
    (hds : ∀ c ∈ ds, c.Delimited) (hes : ∀ c ∈ es, c.Delimited) (hd : d.Delimited)
    (he : e.Delimited)
    (h : methodDescriptor (ds.map Descriptor.name) d.name =
      methodDescriptor (es.map Descriptor.name) e.name) : ds = es ∧ d = e := by
  have htext := congrArg String.toList h
  rw [toList_methodDescriptor (fun c hc => (hds c hc).proper) hd.proper,
    toList_methodDescriptor (fun c hc => (hes c hc).proper) he.proper] at htext
  obtain ⟨hparameters, hrest⟩ := flatMap_fieldText_inj hds hes (List.cons.inj htext).2
  have hreturns : d.fieldText ++ [] = e.fieldText ++ [] := by rw [hrest]
  exact ⟨hparameters, (hd.fieldText_append_inj he hreturns).1⟩

/-- The binary name of a type that a registry gives out and that has no `;` in its canonical name.
For the array of a class there is a `;` in the binary name all the same. -/
def DelimitedName (name : String) : Prop :=
  ∃ d : Descriptor, Issued d ∧ d.name = name ∧ ';' ∉ d.fullName.toList

/-- A binary name without a `;` belongs to a type with none in its canonical name. -/
lemma Registry.Issued.delimitedName {d : Descriptor} (h : Issued d) (hname : ';' ∉ d.name.toList) :
    DelimitedName d.name :=
  ⟨d, h, rfl, fun hmem =>
    hname (Descriptor.mem_name_of_mem_fullName (by decide) (by decide) hmem)⟩

/-- Delimited names are the names of a list of delimited types. -/
lemma exists_map_name_eq {names : List String} (h : ∀ name ∈ names, DelimitedName name) :
    ∃ ds : List Descriptor, (∀ d ∈ ds, d.Delimited) ∧ ds.map Descriptor.name = names := by
  induction names with
  | nil => exact ⟨[], by simp, rfl⟩
  | cons name names ih =>
      rw [List.forall_mem_cons] at h
      obtain ⟨d, hissued, rfl, hfull⟩ := h.1
      obtain ⟨ds, hds, rfl⟩ := ih h.2
      exact ⟨d :: ds, List.forall_mem_cons.mpr ⟨⟨hissued.proper, hfull⟩, hds⟩, rfl⟩

/-- **Field descriptors agree and method descriptors separate.**  The binary and the canonical name
of a type that a registry gives out have the same field descriptor.  Two signatures in binary names
have the same method descriptor only if they are the same, as long as no class in them has a `;` in
its name.  This covers all binary names without a `;` (`Issued.delimitedName`), and the arrays of
classes that have such names. -/
theorem fieldDescriptor_agrees_methodDescriptor_separates :
    (∀ d, Issued d → fieldDescriptor d.name = fieldDescriptor d.fullName) ∧
    ∀ (parameters parameters' : List String) (returns returns' : String),
      (∀ name ∈ returns :: parameters, DelimitedName name) →
      (∀ name ∈ returns' :: parameters', DelimitedName name) →
      (methodDescriptor parameters returns = methodDescriptor parameters' returns' ↔
        parameters = parameters' ∧ returns = returns') := by
  constructor
  · intro d hd
    refine String.toList_inj.mp ?_
    rw [toList_fieldDescriptor_name hd.proper, toList_fieldDescriptor_fullName hd.proper]
  · intro parameters parameters' returns returns' hnames hnames'
    rw [List.forall_mem_cons] at hnames hnames'
    obtain ⟨d, hissued, rfl, hfull⟩ := hnames.1
    obtain ⟨e, hissued', rfl, hfull'⟩ := hnames'.1
    obtain ⟨ds, hds, rfl⟩ := exists_map_name_eq hnames.2
    obtain ⟨es, hes, rfl⟩ := exists_map_name_eq hnames'.2
    constructor
    · intro h
      obtain ⟨rfl, rfl⟩ :=
        methodDescriptor_inj hds hes ⟨hissued.proper, hfull⟩ ⟨hissued'.proper, hfull'⟩ h
      exact ⟨rfl, rfl⟩
    · rintro ⟨hparameters, hreturns⟩
      rw [hparameters, hreturns]

/-- Signatures of the same types in another order. -/
theorem fieldDescriptor_agrees_methodDescriptor_separates_swapped :
    Issued (.array (.object "a.B")) ∧ fieldDescriptor "[La.B;" = fieldDescriptor "a.B[]" ∧
    (∀ name ∈ ["[[I", "[La.B;", "a.B"], DelimitedName name) ∧
    (∀ name ∈ ["[[I", "a.B", "[La.B;"], DelimitedName name) ∧
    methodDescriptor ["[La.B;", "a.B"] "[[I" ≠ methodDescriptor ["a.B", "[La.B;"] "[[I" := by
  have harray : Issued (.array (.object "a.B")) := issued_of_proper (by decide)
  have hagrees := fieldDescriptor_agrees_methodDescriptor_separates.1 _ harray
  rw [(by decide : (Descriptor.array (.object "a.B")).name = "[La.B;"),
    (by decide : (Descriptor.array (.object "a.B")).fullName = "a.B[]")] at hagrees
  have hmatrix : DelimitedName "[[I" :=
    Issued.delimitedName (d := .array (.array (.primitive .int))) (issued_of_proper (by decide))
      (by decide)
  have hclasses : DelimitedName "[La.B;" := ⟨_, harray, rfl, by decide⟩
  have hclass : DelimitedName "a.B" :=
    Issued.delimitedName (d := .object "a.B") (issued_of_proper (by decide)) (by decide)
  have hfirst : ∀ name ∈ ["[[I", "[La.B;", "a.B"], DelimitedName name := by
    simp [hmatrix, hclasses, hclass]
  have hsecond : ∀ name ∈ ["[[I", "a.B", "[La.B;"], DelimitedName name := by
    simp [hmatrix, hclasses, hclass]
  refine ⟨harray, hagrees, hfirst, hsecond, ?_⟩
  rw [Ne, fieldDescriptor_agrees_methodDescriptor_separates.2 _ _ _ _ hfirst hsecond]
  decide

-- with a `;` in its name, a class is written like two of them
example : (Descriptor.object "a;Lb").Proper ∧
    methodDescriptor ["a;Lb"] "void" = methodDescriptor ["a", "b"] "void" := by
  decide

end ClassAtlas
