import ClassAtlas.Proofs.TypeName.Reading

/-!
# The normal form of a type name

Many texts name one type: `int[][]`, `[[I`, `[I[]`, each with or without blanks around it.  What a
registry answers is in a normal form all the same.

* `Reachable` — the registries there can be.  An array may be asked for with a type of another
  registry, so the component of a remembered array need not be remembered.
  Names are remembered with the types that they denote all the same (`Reachable.truthful`).
* `Descriptor.exists_arraysOf` — a type is a primitive or a class in some layers of arrays, and both
  its names can be read off from that.
* `describe_normalForm` — **the type of a name, its two names and the type read back from the
  canonical one**; two types are the same if one of their names is.
-/

namespace ClassAtlas

/-! ## Layers of arrays -/

namespace Descriptor

/-- A type in some layers of arrays. -/
def arraysOf (base : Descriptor) : ℕ → Descriptor
  | 0 => base
  | k + 1 => .array (base.arraysOf k)

/-- What the binary name of an array shows of a type behind its bracket. -/
def elementText : Descriptor → List Char
  | .primitive p => [p.code]
  | .object className => 'L' :: (className.toList ++ [';'])
  | .array component => '[' :: component.elementText

lemma toList_name_array_eq : ∀ d : Descriptor, (array d).name.toList = '[' :: d.elementText
  | .primitive p => toList_name_array_primitive p
  | .object className => toList_name_array_object className
  | .array component => by
      rw [toList_name_array_array, toList_name_array_eq component]
      rfl

lemma elementText_arraysOf (base : Descriptor) (k : ℕ) :
    (base.arraysOf k).elementText = List.replicate k '[' ++ base.elementText := by
  induction k with
  | zero => rfl
  | succ k ih => rw [arraysOf, elementText, ih, List.replicate_succ, List.cons_append]

/-- The binary name of an array: a bracket for each layer, and then its element. -/
lemma toList_name_arraysOf (base : Descriptor) {k : ℕ} (hk : 0 < k) :
    (base.arraysOf k).name.toList = List.replicate k '[' ++ base.elementText := by
  obtain ⟨k, rfl⟩ := Nat.exists_eq_add_of_lt hk
  rw [Nat.zero_add, arraysOf, toList_name_array_eq, elementText_arraysOf, List.replicate_succ,
    List.cons_append]

/-- The canonical name of an array: its element, and then a pair of brackets for each layer. -/
lemma toList_fullName_arraysOf (base : Descriptor) (k : ℕ) :
    (base.arraysOf k).fullName.toList =
      base.fullName.toList ++ (List.replicate k ['[', ']']).flatten := by
  induction k with
  | zero => simp [arraysOf]
  | succ k ih =>
      rw [arraysOf, Registry.toList_fullName_array, ih, List.append_assoc, List.replicate_succ',
        List.flatten_concat]

lemma fullName_eq_name : ∀ {base : Descriptor}, base.isArray = false → base.fullName = base.name
  | .primitive _, _ => rfl
  | .object _, _ => rfl

/-- A character of the canonical name that is neither a bracket nor in a keyword is in the binary
name too. -/
lemma mem_name_of_mem_fullName {c : Char} (hbracket : c ∉ ['[', ']'])
    (hkeyword : ∀ p ∈ Primitive.all, c ∉ p.keyword.toList) :
    ∀ {d : Descriptor}, c ∈ d.fullName.toList → c ∈ d.name.toList
  | .primitive _, h => h
  | .object _, h => h
  | .array component, h => by
      have hcomponent : c ∈ component.name.toList := by
        refine mem_name_of_mem_fullName hbracket hkeyword ?_
        rw [Registry.toList_fullName_array, List.mem_append] at h
        exact h.resolve_right hbracket
      cases component with
      | primitive p => exact absurd hcomponent (hkeyword p (by cases p <;> decide))
      | object className =>
          rw [toList_name_array_object]
          exact List.mem_cons_of_mem _ (List.mem_cons_of_mem _ (List.mem_append_left _ hcomponent))
      | array component =>
          rw [toList_name_array_array]
          exact List.mem_cons_of_mem _ hcomponent

lemma exists_arraysOf :
    ∀ d : Descriptor, ∃ (base : Descriptor) (k : ℕ), base.isArray = false ∧ d = base.arraysOf k
  | .primitive p => ⟨.primitive p, 0, rfl, rfl⟩
  | .object className => ⟨.object className, 0, rfl, rfl⟩
  | .array component => by
      obtain ⟨base, k, hbase, hd⟩ := exists_arraysOf component
      exact ⟨base, k + 1, hbase, congrArg array hd⟩

end Descriptor

namespace Registry

open Text

/-! ## The registries there can be -/

/-- The registries that reading names, letters and arrays leads to.  The component of an array may
come from any registry. -/
inductive Reachable : Registry → Prop
  | empty : Reachable empty
  | describe {r r' : Registry} {name : List Char} {d : Descriptor} (hr : Reachable r)
      (h : r.describe name = .ok (d, r')) : Reachable r'
  | describeCode {r r' : Registry} {c : Char} {d : Descriptor} (hr : Reachable r)
      (h : r.describeCode c = .ok (d, r')) : Reachable r'
  | arrayOf {r s : Registry} {name : String} {d : Descriptor} (hr : Reachable r) (hs : Reachable s)
      (h : s.get? name = some d) : Reachable (r.arrayOf d).2

/-- Every registry there can be is truthful. -/
theorem Reachable.truthful {r : Registry} (h : Reachable r) : Truthful r := by
  induction h with
  | empty => exact grounded_empty.toTruthful
  | describe _ h ih => exact (ih.describe h).2.1.truthful
  | @describeCode _ _ c _ _ h ih =>
      rcases hcode : Primitive.ofCode? c with _ | p
      · simp [Registry.describeCode, hcode] at h
      · simp only [Registry.describeCode, hcode, Except.ok.injEq] at h
        have hlearned := (ih.describePrimitive p).2
        rw [h] at hlearned
        exact hlearned.truthful
  | arrayOf _ _ h ihr ihs => exact (ihr.arrayOf (ihs.denotes h).proper).2.truthful

/-! ## Reading the canonical name -/

/-- The canonical name of a type can be read, whatever was read before. -/
lemma readable_fullName : ∀ {d : Descriptor}, d.Proper → readable d.fullName.toList = true
  | .primitive p, _ => by cases p <;> decide +kernel
  | .object className, h => by
      have hspell : spell (trim className.toList) = .className className.toList := by
        rw [h.1.trim_eq]
        exact h.2
      rw [Descriptor.fullName, readable]
      split <;> simp_all
  | .array component, h => by
      have hcomponent : component.Proper := h
      have hspell : spell (trim (Descriptor.array component).fullName.toList) =
          .canonicalArray component.fullName.toList := by
        rw [toList_fullName_array, (tight_brackets (tight_fullName hcomponent)).trim_eq,
          spell_brackets]
      have ih := readable_fullName hcomponent
      rw [readable]
      split <;> simp_all

/-- A registry reads the canonical name of a type as the type. -/
lemma Truthful.describe_fullName {r : Registry} (hr : Truthful r) {d : Descriptor} (hd : d.Proper) :
    ∃ r', r.describe d.fullName.toList = .ok (d, r') := by
  obtain ⟨e, r', he⟩ := describe_isOk (readable_fullName hd) r
  have heq : e = d := (hr.describe he).1.unique (denotes_fullName hd)
  exact ⟨r', heq ▸ he⟩

/-- **The normal form of a name that is read.**  Its type is a primitive or a class in layers of
arrays.  The binary name of the type opens with a bracket for each layer, the canonical name closes
with a pair of brackets for each.  Every registry reads the canonical name as the same type, and no
other type that a name is read as has one of the two names. -/
theorem describe_normalForm {r r' : Registry} (hr : Reachable r) {name : List Char} {d : Descriptor}
    (h : r.describe name = .ok (d, r')) :
    (∃ (base : Descriptor) (k : ℕ), base.isArray = false ∧ d = base.arraysOf k ∧
      (k = 0 → d.name = base.name) ∧
      (0 < k → d.name.toList = List.replicate k '[' ++ base.elementText) ∧
      d.fullName.toList = base.name.toList ++ (List.replicate k ['[', ']']).flatten) ∧
    (∀ r₁, Reachable r₁ → ∃ r₂, r₁.describe d.fullName.toList = .ok (d, r₂)) ∧
    ∀ r₁ name' e r₂, Reachable r₁ → r₁.describe name' = .ok (e, r₂) →
      (d.name = e.name ↔ d = e) ∧ (d.fullName = e.fullName ↔ d = e) := by
  have hd : d.Proper := (hr.truthful.describe h).1.proper
  refine ⟨?_, fun r₁ hr₁ => hr₁.truthful.describe_fullName hd, ?_⟩
  · obtain ⟨base, k, hbase, rfl⟩ := d.exists_arraysOf
    refine ⟨base, k, hbase, rfl, ?_, base.toList_name_arraysOf, ?_⟩
    · rintro rfl
      rfl
    · rw [base.toList_fullName_arraysOf, Descriptor.fullName_eq_name hbase]
  · intro r₁ name' e r₂ hr₁ he
    have hproper : e.Proper := (hr₁.truthful.describe he).1.proper
    exact ⟨⟨hd.name_inj hproper, congrArg _⟩, ⟨hd.fullName_inj hproper, congrArg _⟩⟩

/-- A mixed spelling with blanks around it. -/
theorem describe_normalForm_mixed :
    ∃ r', Reachable empty ∧
      empty.describe " [Ljava/lang/String;[] ".toList =
        .ok (.array (.array (.object "java.lang.String")), r') ∧
      ∀ r₁, Reachable r₁ → ∃ r₂, r₁.describe "java.lang.String[][]".toList =
        .ok (.array (.array (.object "java.lang.String")), r₂) := by
  have hclass : Denotes "java/lang/String".toList (.object "java.lang.String") := by
    have h : Denotes "java/lang/String".toList
        (.object (String.ofList "java.lang.String".toList)) := .className (by decide)
    rwa [String.ofList_toList] at h
  have harray : Denotes "[Ljava/lang/String;".toList (.array (.object "java.lang.String")) :=
    .classFileArray (by decide) hclass
  have hname : Denotes " [Ljava/lang/String;[] ".toList
      (.array (.array (.object "java.lang.String"))) := .canonicalArray (by decide) harray
  have hok : ∃ d r', empty.describe " [Ljava/lang/String;[] ".toList = .ok (d, r') :=
    describe_isOk (by decide +kernel) empty
  obtain ⟨d, r', h⟩ := hok
  obtain rfl := (grounded_empty.describe h).1.unique hname
  exact ⟨r', .empty, h, (describe_normalForm .empty h).2.1⟩

end Registry

end ClassAtlas
