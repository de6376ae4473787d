import ClassAtlas.Error
import ClassAtlas.Text.Blank
import ClassAtlas.TypeName.Descriptor
import Std.Data.HashMap

/-!
# The registry of type names

Type names come in several spellings: `java.lang.String[]`, `[Ljava.lang.String;`,
`java/lang/String`.  A registry reads a name once and remembers what it means, under the name itself
and under the binary name of the type.

* `Registry.describe` — the type a name stands for.
* `Registry.describeCode` — the primitive type of a class file letter.
* `Registry.arrayOf` — the array of a type.
-/

namespace ClassAtlas

/-- What is known about type names. -/
structure Registry where
  known : Std.HashMap String Descriptor

namespace Registry

/-- A registry that knows no name. -/
def empty : Registry :=
  ⟨∅⟩

instance : Inhabited Registry :=
  ⟨empty⟩

/-- The number of names that are known. -/
def size (r : Registry) : Nat :=
  r.known.size

/-- What a name is known to mean. -/
def get? (r : Registry) (name : String) : Option Descriptor :=
  r.known.get? name

/-- Remembers a type under its own name, unless that is known, and under the given one. -/
def remember (r : Registry) (name : String) (d : Descriptor) : Registry :=
  ⟨(r.known.insertIfNew d.name d).insert name d⟩

/-- The array of a type; what is known under its name comes first. -/
def arrayOf (r : Registry) (component : Descriptor) : Descriptor × Registry :=
  let array := Descriptor.array component
  match r.get? array.name with
  | some known => (known, r)
  | none => (array, ⟨r.known.insert array.name array⟩)

/-- The type of a keyword. -/
def describePrimitive (r : Registry) (p : Primitive) : Descriptor × Registry :=
  match r.get? p.keyword with
  | some known => (known, r)
  | none => (.primitive p, r.remember p.keyword (.primitive p))

/-! ## Reading a name -/

/-- How a trimmed name is spelled. -/
inductive Spelling where
  | keyword (type : Primitive)
  /-- `component[]` -/
  | canonicalArray (component : List Char)
  /-- `[component` with a further array or `Lcomponent;` behind the bracket. -/
  | classFileArray (component : List Char)
  /-- `[` and the letter of a primitive type other than `void`. -/
  | primitiveArray (component : Primitive)
  | className (name : List Char)
  | malformed

/-- What stands behind the `[` of an array in the form of the class file. -/
def spellComponent : List Char → Spelling
  | '[' :: rest => .classFileArray ('[' :: rest)
  | [c] =>
    match Primitive.ofCode? c with
    | some .void | none => .malformed
    | some p => .primitiveArray p
  | 'L' :: rest =>
    match rest.reverse with
    | ';' :: body => .classFileArray body.reverse
    | _ => .malformed
  | _ => .malformed

/-- The spelling of a trimmed name.  In a class name, `/` separates like `.`, and neither end is a
separator. -/
def spell (trimmed : List Char) : Spelling :=
  match Primitive.ofKeyword? (String.ofList trimmed), trimmed.reverse, trimmed with
  | some p, _, _ => .keyword p
  | none, ']' :: '[' :: front, _ => .canonicalArray front.reverse
  | none, _, '[' :: rest => spellComponent rest
  | none, [], _ => .malformed
  | none, _ :: _, _ =>
    let name := Text.replaceChar '/' '.' trimmed
    if name.head? = some '.' ∨ name.getLast? = some '.' then .malformed else .className name

theorem spellComponent_lt {rest component : List Char}
    (h : spellComponent rest = .classFileArray component) : component.length ≤ rest.length := by
  unfold spellComponent at h
  split at h
  · simp only [Spelling.classFileArray.injEq] at h
    exact h ▸ Nat.le_refl _
  · split at h <;> simp at h
  · rename_i rest' _
    split at h
    · rename_i body heq
      simp only [Spelling.classFileArray.injEq] at h
      have := congrArg List.length heq
      rw [← h]
      simp only [List.length_reverse, List.length_cons] at this ⊢
      omega
    · simp at h
  · simp at h

theorem spell_canonical_lt {trimmed component : List Char}
    (h : spell trimmed = .canonicalArray component) : component.length < trimmed.length := by
  unfold spell at h
  split at h
  · simp at h
  · rename_i front _ heq
    simp only [Spelling.canonicalArray.injEq] at h
    have := congrArg List.length heq
    rw [← h]
    simp only [List.length_reverse, List.length_cons] at this ⊢
    omega
  · unfold spellComponent at h
    split at h
    · simp at h
    · split at h <;> simp at h
    · split at h <;> simp at h
    · simp at h
  · simp at h
  · simp only at h
    split at h <;> simp at h

theorem spell_classFile_lt {trimmed component : List Char}
    (h : spell trimmed = .classFileArray component) : component.length < trimmed.length := by
  unfold spell at h
  split at h
  · simp at h
  · simp at h
  · have := spellComponent_lt h
    simp only [List.length_cons]
    omega
  · simp at h
  · simp only at h
    split at h <;> simp at h

/-- The type that a name stands for, and the registry that knows it.  A name that stands for no type
leaves the registry as it is. -/
def describe (r : Registry) (name : List Char) : Except ModelError (Descriptor × Registry) :=
  let key := String.ofList name
  match r.get? key with
  | some known => .ok (known, r)
  | none =>
    match h : spell (Text.trim name) with
    | .malformed => .error (.invalidTypeName key)
    | .keyword p => .ok (.primitive p, r.remember key (.primitive p))
    | .canonicalArray component => do
      have := spell_canonical_lt h
      have := Text.trim_length_le name
      let (c, r) ← r.describe component
      let (d, r) := r.arrayOf c
      .ok (d, r.remember key d)
    | .classFileArray component => do
      have := spell_classFile_lt h
      have := Text.trim_length_le name
      let (c, r) ← r.describe component
      let (d, r) := r.arrayOf c
      .ok (d, r.remember key d)
    | .primitiveArray p =>
      let (c, r) := r.describePrimitive p
      let (d, r) := r.arrayOf c
      .ok (d, r.remember key d)
    | .className className =>
      let d := (r.get? (String.ofList className)).getD (.object (String.ofList className))
      .ok (d, r.remember key d)
termination_by name.length
decreasing_by all_goals omega

/-- The primitive type of a class file letter. -/
def describeCode (r : Registry) (c : Char) : Except ModelError (Descriptor × Registry) :=
  match Primitive.ofCode? c with
  | some p => .ok (r.describePrimitive p)
  | none => .error (.invalidTypeName c.toString)

end Registry

end ClassAtlas
