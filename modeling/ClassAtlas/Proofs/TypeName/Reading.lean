import ClassAtlas.TypeName.Registry
import Mathlib.Data.List.Basic
import Mathlib.Tactic.Common

/-!
# What a type name denotes

A registry answers from what it remembers, so its answer could depend on the names that were read
before.  This file says what a name denotes without any registry and shows that a registry only ever
remembers the truth.

* `Denotes` — the type that a name stands for, in any of its spellings.
* `Denotes.unique` — a name stands for one type.
* `Descriptor.Proper`, `denotes_name` — **a type that some name denotes is denoted by its own binary
  name**, so the binary name tells such types apart (`Descriptor.Proper.name_inj`).
* `denotes_fullName` — the same goes for its canonical name (`Descriptor.Proper.fullName_inj`).
* `Truthful`, `Truthful.describe` — a registry that remembers the truth tells it, and goes on doing
  so; `Grounded` — one that remembers the types inside of a type too.
* `readable`, `describe_isOk` — which names can be read on any registry.

One name is special: `[V` is not read, but once `void[]` was read it is remembered.
-/

namespace ClassAtlas

/-! ## Trimmed texts -/

namespace Text

/-- A text with no blank at either end. -/
def Tight (cs : List Char) : Prop :=
  (∀ c, cs.head? = some c → isBlank c = false) ∧ ∀ c, cs.getLast? = some c → isBlank c = false

lemma tight_iff {cs : List Char} :
    Tight cs ↔ (cs.head?.all (!isBlank ·) && cs.getLast?.all (!isBlank ·)) = true := by
  simp [Tight, Option.all_eq_true]

-- a quantifier over characters could also be decided by trying every character
instance (cs : List Char) : Decidable (Tight cs) :=
  decidable_of_iff' _ tight_iff

lemma dropWhile_eq_self {p : Char → Bool} {cs : List Char}
    (h : ∀ c, cs.head? = some c → p c = false) : cs.dropWhile p = cs := by
  cases cs with
  | nil => rfl
  | cons c cs => rw [List.dropWhile_cons_of_neg]; simp [h c rfl]

lemma Tight.trim_eq {cs : List Char} (h : Tight cs) : trim cs = cs := by
  have hlast : ∀ c, cs.reverse.head? = some c → isBlank c = false := by
    simpa [List.head?_reverse] using h.2
  rw [trim, dropWhile_eq_self h.1, dropWhile_eq_self hlast, List.reverse_reverse]

lemma tight_trim (cs : List Char) : Tight (trim cs) := by
  refine ⟨fun c hc => ?_, fun c hc => ?_⟩
  · -- what is cut off at the end leaves the first character in its place
    obtain ⟨cut, hcut⟩ := (List.dropWhile_suffix isBlank : _ <:+ (cs.dropWhile isBlank).reverse)
    have hsplit : cs.dropWhile isBlank = trim cs ++ cut.reverse := by
      rw [trim, ← List.reverse_append, hcut, List.reverse_reverse]
    have hfirst := List.head?_dropWhile_not isBlank cs
    rw [hsplit, List.head?_append, hc] at hfirst
    exact hfirst
  · rw [trim, List.getLast?_reverse] at hc
    have hfirst := List.head?_dropWhile_not isBlank (cs.dropWhile isBlank).reverse
    rw [hc] at hfirst
    exact hfirst

end Text

/-! ## Letters and keywords of primitive types -/

namespace Primitive

lemma ofKeyword?_keyword (p : Primitive) : ofKeyword? p.keyword = some p := by
  cases p <;> decide

lemma eq_keyword_of_ofKeyword? {word : String} {p : Primitive} (h : ofKeyword? word = some p) :
    word = p.keyword := by
  have := List.find?_some h
  exact (beq_iff_eq.mp this).symm

/-- The first character of a keyword is a small letter; no separator and no bracket is in it. -/
lemma ofKeyword?_eq_none {cs : List Char} (h : ∃ c ∈ cs, c = '[' ∨ c = '.') :
    ofKeyword? (String.ofList cs) = none := by
  rw [Option.eq_none_iff_forall_not_mem]
  intro p hp
  have hcs : cs = p.keyword.toList := by
    rw [← eq_keyword_of_ofKeyword? hp, String.toList_ofList]
  obtain ⟨c, hc, hsep⟩ := h
  rw [hcs] at hc
  have hnone : ∀ q : Primitive, (q.keyword.toList.any fun c => c == '[' || c == '.') = false := by
    intro q
    cases q <;> decide
  have hsome : (p.keyword.toList.any fun c => c == '[' || c == '.') = true :=
    List.any_eq_true.mpr ⟨c, hc, by simpa using hsep⟩
  rw [hnone p] at hsome
  cases hsome

end Primitive

namespace Registry

open Text

/-! ## Spellings -/

/-- When a trimmed name is spelled as the name of a class. -/
lemma spell_eq_className {t cn : List Char} :
    spell t = .className cn ↔
      Primitive.ofKeyword? (String.ofList t) = none ∧ (∀ front, t.reverse ≠ ']' :: '[' :: front) ∧
      (∀ rest, t ≠ '[' :: rest) ∧ t ≠ [] ∧ cn = replaceChar '/' '.' t ∧
      cn.head? ≠ some '.' ∧ cn.getLast? ≠ some '.' := by
  unfold spell
  split
  · rename_i p hp
    simp [hp]
  · rename_i front hk hrev
    simp [hrev]
  · rename_i rest hk hfront
    refine ⟨fun h => ?_, fun h => absurd rfl (h.2.2.1 rest)⟩
    unfold spellComponent at h
    split at h
    · simp at h
    · split at h <;> simp at h
    · split at h <;> simp at h
    · simp at h
  · rename_i _ hrev
    have hnil := List.reverse_eq_nil_iff.mp hrev
    simp [hnil]
  · rename_i t _ _ _ c cs hclose hopen hk hrev
    have hne : t ≠ [] := by rintro rfl; simp at hrev
    have hfront : ∀ front, t.reverse ≠ ']' :: '[' :: front := by
      intro front heq
      rw [heq, List.cons.injEq] at hrev
      exact hclose front hrev.1.symm hrev.2.symm
    simp only
    split_ifs with hdot
    · refine ⟨fun h => by simp at h, ?_⟩
      rintro ⟨-, -, -, -, rfl, hhead, hlast⟩
      exact (hdot.elim hhead hlast).elim
    · rw [not_or] at hdot
      constructor
      · intro h
        rw [Spelling.className.injEq] at h
        subst h
        exact ⟨hk, hfront, hopen, hne, rfl, hdot.1, hdot.2⟩
      · rintro ⟨-, -, -, -, rfl, -, -⟩
        rfl

/-- The name of a class, once read, is spelled as itself: its separators are dots and no blank
surrounds it. -/
lemma spell_className {t cn : List Char} (ht : Tight t) (h : spell t = .className cn) :
    Tight cn ∧ spell cn = .className cn := by
  obtain ⟨hk, hfront, hopen, hne, rfl, hhead, hlast⟩ := spell_eq_className.mp h
  set f : Char → Char := fun c => if c = '/' then '.' else c with hf
  have hmap : replaceChar '/' '.' t = t.map f := rfl
  have hblank : ∀ c, isBlank c = false → isBlank (f c) = false := by
    intro c hc
    rw [hf]
    dsimp only
    split_ifs
    · decide
    · exact hc
  have hbracket : ∀ c d, (d = ']' ∨ d = '[') → f c = d → c = d := by
    rintro c d hd hc
    rw [hf] at hc
    dsimp only at hc
    split_ifs at hc
    · subst hc; rcases hd with hd | hd <;> exact absurd hd (by decide)
    · exact hc
  rw [hmap] at hhead hlast ⊢
  refine ⟨⟨fun c hc => ?_, fun c hc => ?_⟩, spell_eq_className.mpr
    ⟨?_, fun front heq => ?_, fun rest heq => ?_, by simpa using hne, ?_, hhead, hlast⟩⟩
  · rw [List.head?_map] at hc
    obtain ⟨d, hd, rfl⟩ := Option.map_eq_some_iff.mp hc
    exact hblank d (ht.1 d hd)
  · rw [List.getLast?_map] at hc
    obtain ⟨d, hd, rfl⟩ := Option.map_eq_some_iff.mp hc
    exact hblank d (ht.2 d hd)
  · -- a keyword has no dot in it, so nothing was replaced
    by_cases hdot : ∃ c ∈ t.map f, c = '[' ∨ c = '.'
    · exact Primitive.ofKeyword?_eq_none hdot
    · have hsame : t.map f = t := by
        refine (List.map_congr_left fun c hc => ?_).trans (List.map_id t)
        refine if_neg fun hslash => hdot ⟨f c, List.mem_map_of_mem hc, Or.inr ?_⟩
        rw [hf, hslash]
        rfl
      rw [hsame]; exact hk
  · rw [← List.map_reverse] at heq
    obtain ⟨c, cs, hcs, hc, htail⟩ := List.map_eq_cons_iff.mp heq
    obtain ⟨d, ds, hds, hd, -⟩ := List.map_eq_cons_iff.mp htail
    refine hfront ds ?_
    rw [hcs, hds, hbracket c _ (Or.inl rfl) hc, hbracket d _ (Or.inr rfl) hd]
  · obtain ⟨c, cs, hcs, hc, -⟩ := List.map_eq_cons_iff.mp heq
    refine hopen cs ?_
    rw [hcs, hbracket c _ (Or.inr rfl) hc]
  · rw [replaceChar, List.map_map]
    refine List.map_congr_left fun c _ => ?_
    simp only [Function.comp_apply, hf]
    split_ifs <;> simp_all

/-- A text that opens with a bracket and does not close with one is an array as the class file
writes it. -/
lemma spell_bracket {rest : List Char} (h : rest.getLast? ≠ some ']') :
    spell ('[' :: rest) = spellComponent rest := by
  have hk : Primitive.ofKeyword? (String.ofList ('[' :: rest)) = none :=
    Primitive.ofKeyword?_eq_none ⟨'[', List.mem_cons_self .., Or.inl rfl⟩
  have hrev : ∀ front, ('[' :: rest).reverse ≠ ']' :: '[' :: front := by
    intro front heq
    have hlast : ('[' :: rest).getLast? = some ']' := by
      rw [← List.head?_reverse, heq]
      rfl
    cases rest with
    | nil => simp at hlast
    | cons c cs =>
        rw [List.getLast?_cons_cons] at hlast
        exact h hlast
  unfold spell
  split
  · simp_all
  · simp_all
  · simp_all
  · simp_all
  · simp_all

end Registry

/-! ## Proper types -/

deriving instance DecidableEq for Registry.Spelling

namespace Descriptor

open Registry Text

/-- A type whose class, if it has one, has a name that is spelled as itself. -/
def Proper : Descriptor → Prop
  | .primitive _ => True
  | .object className =>
      Tight className.toList ∧ spell className.toList = .className className.toList
  | .array component => component.Proper

instance decidableProper : (d : Descriptor) → Decidable d.Proper
  | .primitive _ => isTrue trivial
  | .object _ => inferInstanceAs (Decidable (_ ∧ _))
  | .array component => decidableProper component

/-- The number of array layers of a type. -/
def layers : Descriptor → ℕ
  | .array component => component.layers + 1
  | _ => 0

lemma toList_name_array_primitive (p : Primitive) :
    (array (.primitive p)).name.toList = ['[', p.code] := by
  simp [name]

lemma toList_name_array_object (className : String) :
    (array (.object className)).name.toList = '[' :: 'L' :: (className.toList ++ [';']) := by
  simp [name]

lemma toList_name_array_array (component : Descriptor) :
    (array (.array component)).name.toList = '[' :: (array component).name.toList := by
  simp [name]

/-- The binary name of an array opens with a bracket, and neither closes with one nor has blanks
around it. -/
lemma toList_name_array : ∀ d : Descriptor, ∃ rest, (array d).name.toList = '[' :: rest ∧
    rest ≠ [] ∧ rest.getLast? ≠ some ']' ∧ Tight ('[' :: rest)
  | .primitive p => by
      refine ⟨_, toList_name_array_primitive p, by simp, ?_⟩
      cases p <;> simp [Tight, Primitive.code] <;> decide
  | .object className => by
      refine ⟨_, toList_name_array_object className, by simp, by simp [List.getLast?_cons], ?_⟩
      refine ⟨fun c hc => ?_, fun c hc => ?_⟩
      · simp only [List.head?_cons, Option.some_inj] at hc
        subst hc; decide
      · rw [← List.cons_append, ← List.cons_append, List.getLast?_append] at hc
        simp at hc
        subst hc; decide
  | .array component => by
      obtain ⟨rest, hrest, hne, hlast, htight⟩ := toList_name_array component
      obtain ⟨c, cs, rfl⟩ := List.exists_cons_of_ne_nil hne
      refine ⟨'[' :: c :: cs, by rw [toList_name_array_array, hrest], by simp, ?_, ?_, ?_⟩
      · rwa [List.getLast?_cons_cons]
      · exact fun d hd => htight.1 d hd
      · intro d hd
        rw [List.getLast?_cons_cons] at hd
        exact htight.2 d hd

end Descriptor

/-! ## Names and what they denote -/

namespace Registry

open Text

/-- What a name denotes.  The last case is no spelling: it is the name under which the array of
`void` is remembered. -/
inductive Denotes : List Char → Descriptor → Prop
  | keyword {name : List Char} {p : Primitive} (h : spell (trim name) = .keyword p) :
      Denotes name (.primitive p)
  | canonicalArray {name component : List Char} {d : Descriptor}
      (h : spell (trim name) = .canonicalArray component) (hd : Denotes component d) :
      Denotes name (.array d)
  | classFileArray {name component : List Char} {d : Descriptor}
      (h : spell (trim name) = .classFileArray component) (hd : Denotes component d) :
      Denotes name (.array d)
  | primitiveArray {name : List Char} {p : Primitive} (h : spell (trim name) = .primitiveArray p) :
      Denotes name (.array (.primitive p))
  | className {name className : List Char} (h : spell (trim name) = .className className) :
      Denotes name (.object (String.ofList className))
  | voidArray : Denotes ['[', 'V'] (.array (.primitive .void))

lemma spell_voidArray : spell (trim ['[', 'V']) = .malformed := rfl

lemma not_denotes_nil {d : Descriptor} : ¬ Denotes [] d := by
  have hspell : spell (trim []) = .malformed := rfl
  intro h
  cases h <;> simp_all

/-- A name denotes one type. -/
theorem Denotes.unique {name : List Char} {d e : Descriptor} (hd : Denotes name d)
    (he : Denotes name e) : d = e := by
  induction hd generalizing e with
  | keyword h => cases he <;> simp_all [spell_voidArray]
  | canonicalArray h _ ih =>
      cases he with
      | canonicalArray h' he =>
          rw [h, Spelling.canonicalArray.injEq] at h'
          subst h'
          rw [ih he]
      | voidArray => simp [spell_voidArray] at h
      | _ h' => simp [h] at h'
  | classFileArray h _ ih =>
      cases he with
      | classFileArray h' he =>
          rw [h, Spelling.classFileArray.injEq] at h'
          subst h'
          rw [ih he]
      | voidArray => simp [spell_voidArray] at h
      | _ h' => simp [h] at h'
  | primitiveArray h => cases he <;> simp_all [spell_voidArray]
  | className h => cases he <;> simp_all [spell_voidArray]
  | voidArray =>
      cases he with
      | voidArray => rfl
      | _ h' => simp [spell_voidArray] at h'

/-- The types that names denote are proper. -/
lemma Denotes.proper {name : List Char} {d : Descriptor} (h : Denotes name d) : d.Proper := by
  induction h with
  | className h =>
      have := spell_className (tight_trim _) h
      rwa [Descriptor.Proper, String.toList_ofList]
  | canonicalArray _ _ ih => exact ih
  | classFileArray _ _ ih => exact ih
  | _ => exact trivial

/-- **A proper type is denoted by its binary name.** -/
theorem denotes_name : ∀ {d : Descriptor}, d.Proper → Denotes d.name.toList d
  | .primitive p, _ => by cases p <;> exact Denotes.keyword rfl
  | .object className, h => by
      have hspell : spell (trim className.toList) = .className className.toList := by
        rw [h.1.trim_eq]; exact h.2
      simpa [Descriptor.name] using Denotes.className hspell
  | .array (.primitive p), _ => by
      rw [Descriptor.toList_name_array_primitive]
      cases p with
      | void => exact Denotes.voidArray
      | _ => exact Denotes.primitiveArray rfl
  | .array (.object className), h => by
      obtain ⟨rest, hrest, -, hlast, htight⟩ := Descriptor.toList_name_array (.object className)
      rw [hrest]
      have hclass : Denotes className.toList (.object className) := by
        simpa [Descriptor.name] using denotes_name (d := .object className) h
      refine Denotes.classFileArray ?_ hclass
      rw [htight.trim_eq, spell_bracket hlast]
      rw [Descriptor.toList_name_array_object, List.cons.injEq] at hrest
      rw [← hrest.2]
      simp [spellComponent]
  | .array (.array component), h => by
      obtain ⟨rest, hrest, -, hlast, htight⟩ := Descriptor.toList_name_array (.array component)
      rw [hrest]
      have hinner : rest = (Descriptor.array component).name.toList := by
        rw [Descriptor.toList_name_array_array, List.cons.injEq] at hrest
        exact hrest.2.symm
      obtain ⟨rest', hrest', -⟩ := Descriptor.toList_name_array component
      have harray : Denotes rest (.array component) := by
        rw [hinner]; exact denotes_name (d := .array component) h
      refine Denotes.classFileArray ?_ harray
      rw [htight.trim_eq, spell_bracket hlast, hinner, hrest']
      rfl

end Registry

open Registry in
/-- Proper types with the same binary name are the same. -/
theorem Descriptor.Proper.name_inj {d e : Descriptor} (hd : d.Proper) (he : e.Proper)
    (h : d.name = e.name) : d = e :=
  (denotes_name hd).unique (h ▸ denotes_name he)

namespace Registry

open Text

/-! ## Registries that remember the truth -/

/-- Everything that is remembered is true, and a type that is remembered is remembered under its own
name too. -/
structure Truthful (r : Registry) : Prop where
  denotes : ∀ {name : String} {d : Descriptor}, r.get? name = some d → Denotes name.toList d
  own : ∀ {name : String} {d : Descriptor}, r.get? name = some d → r.get? d.name = some d

/-- The component of an array that is remembered is remembered too. -/
def Layered (r : Registry) : Prop :=
  ∀ {name : String} {c : Descriptor}, r.get? name = some (.array c) → r.get? c.name = some c

/-- A registry that remembers the truth, and with a type all types inside. -/
structure Grounded (r : Registry) : Prop extends Truthful r where
  component : Layered r

/-- A registry that remembers all that another one does. -/
def Extends (r r' : Registry) : Prop :=
  ∀ name d, r.get? name = some d → r'.get? name = some d

lemma Extends.trans {r r₁ r₂ : Registry} (h : Extends r r₁) (h' : Extends r₁ r₂) : Extends r r₂ :=
  fun name d hn => h' name d (h name d hn)

/-- The component of a type, if it has one, is remembered. -/
def KnowsComponent (r : Registry) (d : Descriptor) : Prop :=
  ∀ c, d = .array c → r.get? c.name = some c

/-- What there is to say when a type was read: the registry tells the truth, nothing was forgotten,
and the type is remembered.  Its component need not be, if it was not before. -/
structure Learned (r : Registry) (d : Descriptor) (r' : Registry) : Prop where
  truthful : Truthful r'
  mono : Extends r r'
  own : r'.get? d.name = some d
  layered : Layered r → KnowsComponent r d → Layered r'

lemma grounded_empty : Grounded empty := by
  refine ⟨⟨?_, ?_⟩, ?_⟩ <;> intro name d h <;> simp [empty, get?] at h

/-- Nothing has to be added for what is remembered already. -/
lemma Truthful.learned {r : Registry} (hr : Truthful r) {d : Descriptor}
    (h : r.get? d.name = some d) : Learned r d r :=
  ⟨hr, fun _ _ hn => hn, h, fun hlayered _ => hlayered⟩

/-- Adding a name that denotes a type: the truth stays as it is, since the name denotes nothing
else. -/
lemma Truthful.learn {r r' : Registry} (hr : Truthful r) {name : String} {d : Descriptor}
    (hget : ∀ n, r'.get? n = if name = n then some d else r.get? n)
    (h : Denotes name.toList d) (hown : name = d.name ∨ r.get? d.name = some d) :
    Learned r d r' := by
  have hext : Extends r r' := by
    intro n e hn
    rw [hget]
    split_ifs with heq
    · subst heq
      rw [h.unique (hr.denotes hn)]
    · exact hn
  have hself : r'.get? d.name = some d := by
    rcases hown with rfl | hown
    · rw [hget, if_pos rfl]
    · exact hext _ _ hown
  refine ⟨⟨fun {n e} hn => ?_, fun {n e} hn => ?_⟩, hext, hself,
    fun hlayered hcomponent n c hn => ?_⟩
  · rw [hget] at hn
    split_ifs at hn with heq
    · cases hn; exact heq ▸ h
    · exact hr.denotes hn
  · rw [hget] at hn
    split_ifs at hn with heq
    · cases hn; exact hself
    · exact hext _ _ (hr.own hn)
  · rw [hget] at hn
    split_ifs at hn with heq
    · cases hn; exact hext _ _ (hcomponent c rfl)
    · exact hext _ _ (hlayered hn)

lemma get?_insert (r : Registry) (name : String) (d : Descriptor) (n : String) :
    get? ⟨r.known.insert name d⟩ n = if name = n then some d else r.get? n := by
  simp only [get?, Std.HashMap.get?_eq_getElem?, Std.HashMap.getElem?_insert, beq_iff_eq]

/-- Adding the own name of a type, unless it is known, is adding it: what is known is the same. -/
lemma Truthful.get?_insertIfNew {r : Registry} (hr : Truthful r) {d : Descriptor} (hd : d.Proper)
    (n : String) :
    get? ⟨r.known.insertIfNew d.name d⟩ n = if d.name = n then some d else r.get? n := by
  simp only [get?, Std.HashMap.get?_eq_getElem?, Std.HashMap.getElem?_insertIfNew, beq_iff_eq]
  by_cases hn : d.name = n
  · subst hn
    by_cases hmem : d.name ∈ r.known
    · obtain ⟨e, he⟩ := Option.isSome_iff_exists.mp (Std.HashMap.isSome_getElem?_iff_mem.mpr hmem)
      have heq : e = d := (hr.denotes he).unique (denotes_name hd)
      rw [if_neg (fun h => h.2 hmem), if_pos rfl, he, heq]
    · simp [hmem]
  · simp [hn]

/-- Learning a type twice. -/
lemma Learned.again {r r₁ r₂ : Registry} {d : Descriptor} (h : Learned r d r₁)
    (h' : Learned r₁ d r₂) : Learned r d r₂ :=
  ⟨h'.truthful, h.mono.trans h'.mono, h'.own, fun hlayered hcomponent =>
    h'.layered (h.layered hlayered hcomponent) fun c hc => h.mono _ _ (hcomponent c hc)⟩

/-- Learning a type and then its array. -/
lemma Learned.array {r r₁ r₂ : Registry} {c : Descriptor} (h : Learned r c r₁)
    (h' : Learned r₁ (.array c) r₂) : Learned r (.array c) r₂ :=
  ⟨h'.truthful, h.mono.trans h'.mono, h'.own, fun hlayered hcomponent =>
    h'.layered (h.layered hlayered fun _ hc => hlayered (hc ▸ hcomponent c rfl)) fun _ hd => by
      cases hd
      exact h.own⟩

/-- Remembering a type under a name that denotes it: first under its own name, then under the
other. -/
lemma Truthful.remember {r : Registry} (hr : Truthful r) {name : List Char} {d : Descriptor}
    (h : Denotes name d) : Learned r d (r.remember (String.ofList name) d) := by
  have hfirst : Learned r d ⟨r.known.insertIfNew d.name d⟩ :=
    hr.learn (hr.get?_insertIfNew h.proper) (denotes_name h.proper) (Or.inl rfl)
  have hname : Denotes (String.ofList name).toList d := by rwa [String.toList_ofList]
  exact hfirst.again (hfirst.truthful.learn (get?_insert _ (String.ofList name) d) hname
    (Or.inr hfirst.own))

/-- The array of a type, which may be remembered elsewhere. -/
lemma Truthful.arrayOf {r : Registry} (hr : Truthful r) {c : Descriptor} (hc : c.Proper) :
    (r.arrayOf c).1 = .array c ∧ Learned r (.array c) (r.arrayOf c).2 := by
  have hname : Denotes (Descriptor.array c).name.toList (.array c) :=
    denotes_name (d := .array c) hc
  rcases hknown : r.get? (Descriptor.array c).name with _ | known
  · simp only [Registry.arrayOf, hknown, true_and]
    exact hr.learn (get?_insert r _ _) hname (Or.inl rfl)
  · have heq : known = .array c := (hr.denotes hknown).unique hname
    subst heq
    simp only [Registry.arrayOf, hknown, true_and]
    exact hr.learned hknown

lemma Truthful.describePrimitive {r : Registry} (hr : Truthful r) (p : Primitive) :
    (r.describePrimitive p).1 = .primitive p ∧
      Learned r (.primitive p) (r.describePrimitive p).2 := by
  have hname : Denotes p.keyword.toList (.primitive p) := denotes_name (d := .primitive p) trivial
  rcases hknown : r.get? p.keyword with _ | known
  · simp only [Registry.describePrimitive, hknown, true_and]
    have := hr.remember hname
    rwa [String.ofList_toList] at this
  · have heq : known = .primitive p := (hr.denotes hknown).unique hname
    subst heq
    simp only [Registry.describePrimitive, hknown, true_and]
    exact hr.learned hknown

/-- Remembering the array of a component under a name that denotes it. -/
lemma Truthful.remember_arrayOf {r : Registry} (hr : Truthful r) {c : Descriptor}
    {name : List Char} (hname : Denotes name (.array c)) :
    (r.arrayOf c).1 = .array c ∧
      Learned r (.array c) ((r.arrayOf c).2.remember (String.ofList name) (r.arrayOf c).1) := by
  obtain ⟨heq, hlearned⟩ := hr.arrayOf (c := c) hname.proper
  refine ⟨heq, ?_⟩
  rw [heq]
  exact hlearned.again (hlearned.truthful.remember hname)

/-- An array that was read was read by way of its component. -/
lemma eq_ok_of_component {x : Except ModelError (Descriptor × Registry)} {name : List Char}
    {d : Descriptor} {r' : Registry}
    (h : (do
      let (c, r) ← x
      let (d, r) := r.arrayOf c
      .ok (d, r.remember (String.ofList name) d)) = .ok (d, r')) :
    ∃ c r₁, x = .ok (c, r₁) ∧ d = (r₁.arrayOf c).1 ∧
      r' = (r₁.arrayOf c).2.remember (String.ofList name) d := by
  rcases x with e | ⟨c, r₁⟩
  · cases h
  · cases h
    exact ⟨c, r₁, rfl, rfl, rfl⟩

/-- Reading an array by way of its component. -/
lemma Learned.of_component {r r₁ r' : Registry} {c d : Descriptor} {name : List Char}
    (h : Learned r c r₁) (hlayered : Layered r → Layered r₁) (hname : Denotes name (.array c))
    (hd : d = (r₁.arrayOf c).1) (hr' : r' = (r₁.arrayOf c).2.remember (String.ofList name) d) :
    Denotes name d ∧ Learned r d r' ∧ (Layered r → Layered r') := by
  obtain ⟨heq, hlearned⟩ := h.truthful.remember_arrayOf hname
  rw [← hd] at heq hlearned
  rw [← hr'] at hlearned
  subst heq
  refine ⟨hname, h.array hlearned, fun hr => hlearned.layered (hlayered hr) fun _ hc => ?_⟩
  cases hc
  exact h.own

lemma get?_remember (r : Registry) (name : String) (d : Descriptor) :
    (r.remember name d).get? name = some d := by
  simp [remember, get?]

/-- A name that was read is remembered. -/
lemma get?_of_describe {r r' : Registry} {name : List Char} {d : Descriptor}
    (h : r.describe name = .ok (d, r')) : r'.get? (String.ofList name) = some d := by
  fun_induction describe r name generalizing d r' with
  | case1 =>
      rename_i hknown
      cases h
      exact hknown
  | case2 => cases h
  | case4 | case5 =>
      obtain ⟨c, r₁, -, -, rfl⟩ := eq_ok_of_component h
      exact get?_remember ..
  | case3 | case6 | case7 =>
      cases h
      exact get?_remember ..

/-- **A registry that remembers the truth tells the truth**, and goes on remembering only that.  If
it remembers the types inside of those that it remembers, it goes on doing so. -/
theorem Truthful.describe {r : Registry} (hr : Truthful r) {name : List Char} {d : Descriptor}
    {r' : Registry} (h : r.describe name = .ok (d, r')) :
    Denotes name d ∧ Learned r d r' ∧ (Layered r → Layered r') := by
  fun_induction Registry.describe r name generalizing d r' with
  | case1 =>
      rename_i hknown
      cases h
      have hname := hr.denotes hknown
      rw [String.toList_ofList] at hname
      exact ⟨hname, hr.learned (hr.own hknown), id⟩
  | case2 => cases h
  | case3 =>
      rename_i hspell
      cases h
      have hlearned := hr.remember (.keyword hspell)
      exact ⟨.keyword hspell, hlearned, fun hr => hlearned.layered hr (fun c hc => by cases hc)⟩
  | case4 =>
      rename_i hspell _ _ ih
      obtain ⟨c, r₁, hc, hd, hr'⟩ := eq_ok_of_component h
      obtain ⟨hden, hlearned, hlayered⟩ := ih hc
      exact hlearned.of_component hlayered (.canonicalArray hspell hden) hd hr'
  | case5 =>
      rename_i hspell _ _ ih
      obtain ⟨c, r₁, hc, hd, hr'⟩ := eq_ok_of_component h
      obtain ⟨hden, hlearned, hlayered⟩ := ih hc
      exact hlearned.of_component hlayered (.classFileArray hspell hden) hd hr'
  | case6 =>
      rename_i name _ _ p hspell c r₁ hc e r₂ he
      obtain ⟨hprim, hlearned⟩ := hr.describePrimitive p
      rw [hc] at hprim hlearned
      simp only at hprim hlearned
      subst hprim
      refine hlearned.of_component (fun hr => hlearned.layered hr fun c hc => by cases hc)
        (.primitiveArray hspell) ?_ ?_ <;> rw [he] <;> cases h <;> rfl
  | case7 =>
      rename_i name _ _ className hspell e
      have hname : Denotes name (.object (String.ofList className)) := Denotes.className hspell
      have hknown : e = .object (String.ofList className) := by
        change (r.get? (String.ofList className)).getD _ = _
        rcases hget : r.get? (String.ofList className) with _ | known
        · rfl
        · exact (hr.denotes hget).unique (denotes_name hname.proper)
      rw [hknown] at h
      cases h
      have hlearned := hr.remember hname
      exact ⟨hname, hlearned, fun hr => hlearned.layered hr (fun c hc => by cases hc)⟩

/-- A registry that remembers the types inside of those that it remembers goes on doing so. -/
lemma Grounded.describe {r : Registry} (hr : Grounded r) {name : List Char} {d : Descriptor}
    {r' : Registry} (h : r.describe name = .ok (d, r')) :
    Denotes name d ∧ Learned r d r' ∧ Grounded r' := by
  obtain ⟨hname, hlearned, hlayered⟩ := hr.toTruthful.describe h
  exact ⟨hname, hlearned, hlearned.truthful, hlayered hr.component⟩

/-! ## Names that can be read -/

/-- Whether a name can be read, whatever was read before. -/
def readable (name : List Char) : Bool :=
  match h : spell (trim name) with
  | .malformed => false
  | .keyword _ | .primitiveArray _ | .className _ => true
  | .canonicalArray component =>
    have := spell_canonical_lt h
    have := trim_length_le name
    readable component
  | .classFileArray component =>
    have := spell_classFile_lt h
    have := trim_length_le name
    readable component
termination_by name.length
decreasing_by all_goals omega

/-- A name that can be read is read by every registry. -/
theorem describe_isOk {name : List Char} (h : readable name = true) (r : Registry) :
    ∃ d r', r.describe name = .ok (d, r') := by
  fun_induction describe r name with
  | case1 => exact ⟨_, _, rfl⟩
  | case2 =>
      rename_i hspell
      rw [readable] at h
      split at h <;> simp_all
  | case3 => exact ⟨_, _, rfl⟩
  | case4 =>
      rename_i component hspell _ _ ih
      have hc : readable component = true := by
        rw [readable] at h
        split at h <;> simp_all
      obtain ⟨c, r₁, hd⟩ := ih hc
      rw [hd]
      exact ⟨_, _, rfl⟩
  | case5 =>
      rename_i component hspell _ _ ih
      have hc : readable component = true := by
        rw [readable] at h
        split at h <;> simp_all
      obtain ⟨c, r₁, hd⟩ := ih hc
      rw [hd]
      exact ⟨_, _, rfl⟩
  | case6 => exact ⟨_, _, rfl⟩
  | case7 => exact ⟨_, _, rfl⟩

/-- A name that is not read is called invalid, or a part of it is. -/
lemma describe_eq_error {r : Registry} {name : List Char} {e : ModelError}
    (h : r.describe name = .error e) : ∃ part, e = .invalidTypeName part := by
  fun_induction describe r name generalizing e with
  | case1 => cases h
  | case2 =>
      cases h
      exact ⟨_, rfl⟩
  | case3 => cases h
  | case4 =>
      rename_i component _ _ _ ih
      rcases hc : describe r component with e' | ⟨c, r₁⟩ <;> rw [hc] at h
      · cases h
        exact ih hc
      · cases h
  | case5 =>
      rename_i component _ _ _ ih
      rcases hc : describe r component with e' | ⟨c, r₁⟩ <;> rw [hc] at h
      · cases h
        exact ih hc
      · cases h
  | case6 => cases h
  | case7 => cases h

/-- A text with a pair of brackets behind it is spelled as an array. -/
lemma spell_brackets (t : List Char) : spell (t ++ ['[', ']']) = .canonicalArray t := by
  have hk : Primitive.ofKeyword? (String.ofList (t ++ ['[', ']'])) = none :=
    Primitive.ofKeyword?_eq_none ⟨'[', by simp, Or.inl rfl⟩
  have hrev : (t ++ ['[', ']']).reverse = ']' :: '[' :: t.reverse := by simp
  unfold spell
  rw [hk, hrev]
  simp only [List.reverse_reverse]

/-- Brackets behind a text with no blanks around it leave it without. -/
lemma tight_brackets {t : List Char} (ht : Tight t) : Tight (t ++ ['[', ']']) := by
  refine ⟨fun c hc => ?_, fun c hc => ?_⟩
  · rw [List.head?_append] at hc
    rcases hfirst : t.head? with _ | c'
    · rw [hfirst] at hc
      cases hc
      decide
    · rw [hfirst] at hc
      cases hc
      exact ht.1 c hfirst
  · rw [List.getLast?_append] at hc
    cases hc
    decide

lemma tight_keyword (p : Primitive) : Tight p.keyword.toList := by
  cases p <;> decide

/-- The names of proper types have no blanks around them. -/
lemma tight_name {d : Descriptor} (hd : d.Proper) : Tight d.name.toList := by
  cases d with
  | primitive p => exact tight_keyword p
  | object className => exact hd.1
  | array component =>
      obtain ⟨rest, hrest, -, -, htight⟩ := Descriptor.toList_name_array component
      rw [hrest]
      exact htight

lemma spell_name_brackets {d : Descriptor} (hd : d.Proper) :
    spell (trim (d.name ++ "[]").toList) = .canonicalArray d.name.toList := by
  have htext : (d.name ++ "[]").toList = d.name.toList ++ ['[', ']'] := by simp
  rw [htext, (tight_brackets (tight_name hd)).trim_eq, spell_brackets]

/-- Brackets behind the name of a type make the name of its array. -/
lemma denotes_brackets {d : Descriptor} (hd : d.Proper) :
    Denotes (d.name ++ "[]").toList (.array d) :=
  .canonicalArray (spell_name_brackets hd) (denotes_name hd)

lemma toList_fullName_array (component : Descriptor) :
    (Descriptor.array component).fullName.toList = component.fullName.toList ++ ['[', ']'] := by
  simp [Descriptor.fullName]

lemma tight_fullName : ∀ {d : Descriptor}, d.Proper → Tight d.fullName.toList
  | .primitive p, _ => tight_keyword p
  | .object _, h => h.1
  | .array component, h => by
      rw [toList_fullName_array]
      exact tight_brackets (tight_fullName (d := component) h)

/-- **A proper type is denoted by its canonical name.** -/
theorem denotes_fullName : ∀ {d : Descriptor}, d.Proper → Denotes d.fullName.toList d
  | .primitive _, h => denotes_name h
  | .object _, h => denotes_name h
  | .array component, h => by
      have hcomponent : component.Proper := h
      refine .canonicalArray ?_ (denotes_fullName hcomponent)
      rw [toList_fullName_array, (tight_brackets (tight_fullName hcomponent)).trim_eq,
        spell_brackets]

/-- The array of a type that is remembered can be read, whatever the name of the type is. -/
theorem describe_array {r : Registry} (hr : Truthful r) {d : Descriptor}
    (h : r.get? d.name = some d) :
    ∃ e r', r.describe (d.name ++ "[]").toList = .ok (e, r') := by
  have hspell := spell_name_brackets (hr.denotes h).proper
  have hinner : r.describe d.name.toList = .ok (d, r) := by
    rw [describe]
    simp [h]
  rw [describe]
  split
  · exact ⟨_, _, rfl⟩
  · split
    case h_3 component hcomponent =>
      rw [hspell, Spelling.canonicalArray.injEq] at hcomponent
      rw [hcomponent] at hinner
      rw [hinner]
      exact ⟨_, _, rfl⟩
    all_goals
      rename_i heq
      rw [hspell] at heq
      cases heq

end Registry

namespace Descriptor

open Registry

/-- Proper types with the same canonical name are the same. -/
theorem Proper.fullName_inj {d e : Descriptor} (hd : d.Proper) (he : e.Proper)
    (h : d.fullName = e.fullName) : d = e :=
  (denotes_fullName hd).unique (h ▸ denotes_fullName he)

lemma Proper.fullName_ne_nil {d : Descriptor} (hd : d.Proper) : d.fullName.toList ≠ [] := by
  intro hnil
  have hdenotes := denotes_fullName hd
  rw [hnil] at hdenotes
  exact not_denotes_nil hdenotes

end Descriptor

end ClassAtlas
