import ClassAtlas.Proofs.TypeName.NormalForm

/-!
# What was read before

A registry looks a name up before it reads it.  So a name that cannot be read could still be
answered, once it is remembered as the name of a type that was read in another spelling.  This
happens for one type only: the array of `void` is read as `void[]`, its binary name `[V` is not
read.

* `Call`, `after` — the calls on a registry, and the registry they lead to.
* `OverVoid` — the names that come down to `[V`.
* `Adds` — what a call adds to a registry are the type it answers and the types inside.
* `describe_after_calls` — **a name is answered as by a new registry, unless it comes down to `[V`
  and an array of `void` was answered before**.
* `describe_voidArray_after_call` — the exception happens.
-/

namespace ClassAtlas.Registry

open Text

variable {r r' : Registry} {name : List Char} {d : Descriptor} {k : ℕ}

/-! ## Calls -/

/-- A call on a registry. -/
inductive Call where
  | describe (name : List Char)
  | describeCode (c : Char)
  /-- Asks for the array of what a name is known to mean. -/
  | arrayOf (known : String)
deriving DecidableEq, Repr

/-- The type that a call answers, with the registry after it. -/
def Call.answer? (r : Registry) : Call → Option (Descriptor × Registry)
  | .describe name => (r.describe name).toOption
  | .describeCode c => (r.describeCode c).toOption
  | .arrayOf known => (r.get? known).map r.arrayOf

/-- The registry after a call; one that answers nothing leaves it as it is. -/
def Call.perform (r : Registry) (call : Call) : Registry :=
  ((call.answer? r).map Prod.snd).getD r

/-- The registry after a sequence of calls, the first of them on a new one. -/
def after (calls : List Call) : Registry :=
  calls.foldl Call.perform empty

/-- The types that a sequence of calls answers. -/
def answers (r : Registry) : List Call → List Descriptor
  | [] => []
  | call :: calls => ((call.answer? r).map Prod.fst).toList ++ answers (call.perform r) calls

/-! ## What a call adds -/

/-- Nothing is added but a type and the types inside. -/
def Adds (r : Registry) (d : Descriptor) (r' : Registry) : Prop :=
  ∀ n e, r'.get? n = some e → r.get? n = some e ∨ ∃ k, d = e.arraysOf k

lemma adds_refl (r : Registry) (d : Descriptor) : Adds r d r :=
  fun _ _ h => Or.inl h

lemma adds_insert (r : Registry) (n : String) (d : Descriptor) :
    Adds r d ⟨r.known.insert n d⟩ := by
  intro m e h
  rw [get?_insert] at h
  split_ifs at h
  · cases h
    exact Or.inr ⟨0, rfl⟩
  · exact Or.inl h

lemma Adds.trans {r₁ : Registry} (h : Adds r d r₁) (h' : Adds r₁ d r') : Adds r d r' :=
  fun n e hn => (h' n e hn).elim (h n e) Or.inr

/-- What is added with a component is added with the array. -/
lemma Adds.array (h : Adds r d r') : Adds r (.array d) r' := by
  intro n e hn
  rcases h n e hn with hn | ⟨k, rfl⟩
  · exact Or.inl hn
  · exact Or.inr ⟨k + 1, rfl⟩

lemma adds_remember (r : Registry) (n : String) (d : Descriptor) : Adds r d (r.remember n d) := by
  have hown : Adds r d ⟨r.known.insertIfNew d.name d⟩ := by
    intro m e h
    simp only [get?, Std.HashMap.get?_eq_getElem?, Std.HashMap.getElem?_insertIfNew] at h
    split_ifs at h
    · cases h
      exact Or.inr ⟨0, rfl⟩
    · exact Or.inl h
  exact hown.trans (adds_insert _ n d)

lemma adds_arrayOf (r : Registry) (c : Descriptor) : Adds r (.array c) (r.arrayOf c).2 := by
  rcases hknown : r.get? (Descriptor.array c).name with _ | known
  · simp only [arrayOf, hknown]
    exact adds_insert _ _ _
  · simp only [arrayOf, hknown]
    exact adds_refl _ _

lemma adds_describePrimitive (r : Registry) (p : Primitive) :
    Adds r (.primitive p) (r.describePrimitive p).2 := by
  rcases hknown : r.get? p.keyword with _ | known
  · simp only [describePrimitive, hknown]
    exact adds_remember _ _ _
  · simp only [describePrimitive, hknown]
    exact adds_refl _ _

/-- An array read by way of its component adds what the component adds, and itself. -/
lemma Adds.remember_arrayOf {r₁ : Registry} {c : Descriptor} (h : Adds r c r₁) (n : String) :
    Adds r (.array c) ((r₁.arrayOf c).2.remember n (.array c)) :=
  (h.array.trans (adds_arrayOf r₁ c)).trans (adds_remember _ n _)

lemma Truthful.adds_of_component {component : List Char} {c : Descriptor} {r₁ : Registry}
    (hr : Truthful r) (hc : r.describe component = .ok (c, r₁)) (hadds : Adds r c r₁)
    (hd : d = (r₁.arrayOf c).1) (n : String) :
    Adds r d ((r₁.arrayOf c).2.remember n d) := by
  obtain ⟨hname, hlearned, -⟩ := hr.describe hc
  rw [(hlearned.truthful.arrayOf hname.proper).1] at hd
  subst hd
  exact hadds.remember_arrayOf n

/-- **Reading a name adds the type of the name and the types inside.** -/
theorem Truthful.adds_describe (hr : Truthful r) (h : r.describe name = .ok (d, r')) :
    Adds r d r' := by
  fun_induction Registry.describe r name generalizing d r' with
  | case1 =>
      cases h
      exact adds_refl _ _
  | case2 => cases h
  | case3 =>
      cases h
      exact adds_remember _ _ _
  | case4 | case5 =>
      rename_i ih
      obtain ⟨c, r₁, hc, hd, rfl⟩ := eq_ok_of_component h
      exact hr.adds_of_component hc (ih hc) hd _
  | case6 =>
      rename_i name _ _ p _ c r₁ hc e r₂ he
      obtain ⟨hprim, hlearned⟩ := hr.describePrimitive p
      have hadds := adds_describePrimitive r p
      rw [hc] at hprim hlearned hadds
      simp only at hprim hlearned hadds
      subst hprim
      have harray := (hlearned.truthful.arrayOf (c := .primitive p) trivial).1
      have hadds := hadds.remember_arrayOf (String.ofList name)
      rw [he] at harray hadds
      simp only at harray hadds
      subst harray
      cases h
      exact hadds
  | case7 =>
      cases h
      exact adds_remember _ _ _

/-- What there is to say when a call was answered. -/
lemma Grounded.of_answer? (hr : Grounded r) {call : Call} (h : call.answer? r = some (d, r')) :
    Learned r d r' ∧ Adds r d r' ∧ Grounded r' := by
  cases call with
  | describe name =>
      rcases hok : r.describe name with e | ⟨d', r₁⟩
      · simp [Call.answer?, hok, Except.toOption] at h
      · simp only [Call.answer?, hok, Except.toOption, Option.some_inj, Prod.mk.injEq] at h
        obtain ⟨rfl, rfl⟩ := h
        obtain ⟨-, hlearned, hgrounded⟩ := hr.describe hok
        exact ⟨hlearned, hr.adds_describe hok, hgrounded⟩
  | describeCode c =>
      rcases hcode : Primitive.ofCode? c with _ | p
      · simp [Call.answer?, describeCode, hcode, Except.toOption] at h
      · simp only [Call.answer?, describeCode, hcode, Except.toOption, Option.some_inj] at h
        obtain ⟨hprim, hlearned⟩ := hr.describePrimitive p
        have hadds := adds_describePrimitive r p
        rw [h] at hprim hlearned hadds
        simp only at hprim hlearned hadds
        subst hprim
        exact ⟨hlearned, hadds, hlearned.truthful,
          hlearned.layered hr.component fun c hc => by cases hc⟩
  | arrayOf known =>
      obtain ⟨c, hknown, harray⟩ := Option.map_eq_some_iff.mp h
      obtain ⟨heq, hlearned⟩ := hr.arrayOf (hr.denotes hknown).proper
      have hadds := adds_arrayOf r c
      rw [harray] at heq hlearned hadds
      simp only at heq hlearned hadds
      subst heq
      refine ⟨hlearned, hadds, hlearned.truthful, hlearned.layered hr.component fun e he => ?_⟩
      cases he
      exact hr.own hknown

/-! ## Arrays of `void` -/

/-- The array of `void` in some further layers. -/
def voidArrays (k : ℕ) : Descriptor :=
  Descriptor.arraysOf (.array (.primitive .void)) k

/-- The registry remembers `[V`. -/
def KnowsVoidArray (r : Registry) : Prop :=
  r.get? "[V" = some (voidArrays 0)

/-- A registry that remembers an array of `void` remembers `[V`. -/
lemma Grounded.knowsVoidArray (hr : Grounded r) {n : String} (h : r.get? n = some (voidArrays k)) :
    KnowsVoidArray r := by
  induction k generalizing n with
  | zero => exact hr.own h
  | succ k ih => exact ih (hr.component h)

/-- The step: `[V` is remembered after a call if it was before, or if the call answers an array of
`void`. -/
lemma Grounded.knowsVoidArray_answer? (hr : Grounded r) {call : Call}
    (h : call.answer? r = some (d, r')) :
    KnowsVoidArray r' ↔ KnowsVoidArray r ∨ ∃ k, d = voidArrays k := by
  obtain ⟨hlearned, hadds, hgrounded⟩ := hr.of_answer? h
  constructor
  · exact fun hknows => hadds _ _ hknows
  · rintro (hknows | ⟨k, rfl⟩)
    · exact hlearned.mono _ _ hknows
    · exact hgrounded.knowsVoidArray hlearned.own

/-- What a sequence of calls leaves behind: a grounded registry that remembers `[V` if it did
before, or if an array of `void` was answered. -/
lemma Grounded.foldl_perform (hr : Grounded r) (calls : List Call) :
    Grounded (calls.foldl Call.perform r) ∧
      (KnowsVoidArray (calls.foldl Call.perform r) ↔
        KnowsVoidArray r ∨ ∃ k, voidArrays k ∈ answers r calls) := by
  induction calls generalizing r with
  | nil => simpa [answers] using hr
  | cons call calls ih =>
      rcases hanswer : call.answer? r with _ | ⟨d, r'⟩
      · have hsame : call.perform r = r := by simp [Call.perform, hanswer]
        simpa [answers, hanswer, hsame] using ih hr
      · have hnext : call.perform r = r' := by simp [Call.perform, hanswer]
        obtain ⟨hgrounded, hknows⟩ := ih (hr.of_answer? hanswer).2.2
        simp only [List.foldl_cons, hnext, answers, hanswer, Option.map_some, Option.toList_some,
          List.singleton_append, List.mem_cons]
        refine ⟨hgrounded, hknows.trans ?_⟩
        rw [hr.knowsVoidArray_answer? hanswer, exists_or, or_assoc]
        simp only [eq_comm]

lemma grounded_after (calls : List Call) : Grounded (after calls) :=
  (grounded_empty.foldl_perform calls).1

lemma not_knowsVoidArray_empty : ¬ KnowsVoidArray empty := by
  simp [KnowsVoidArray, empty, get?]

/-- `[V` is remembered once an array of `void` was answered. -/
lemma knowsVoidArray_after (calls : List Call) :
    KnowsVoidArray (after calls) ↔ ∃ k, voidArrays k ∈ answers empty calls := by
  rw [after, (grounded_empty.foldl_perform calls).2]
  simp [not_knowsVoidArray_empty]

/-! ## Names that come down to `[V` -/

/-- The component of an array, as it is spelled. -/
def Spelling.component? : Spelling → Option (List Char)
  | .canonicalArray component | .classFileArray component => some component
  | _ => none

lemma Spelling.component?_eq_some {s : Spelling} {component : List Char} :
    s.component? = some component ↔
      s = .canonicalArray component ∨ s = .classFileArray component := by
  cases s <;> simp [component?]

/-- The names that come down to `[V` in some steps, each from an array to its component. -/
inductive OverVoid : ℕ → List Char → Prop
  | here : OverVoid 0 ['[', 'V']
  | array {k : ℕ} {name component : List Char} (h : (spell (trim name)).component? = some component)
      (hc : OverVoid k component) : OverVoid (k + 1) name

lemma OverVoid.denotes (h : OverVoid k name) : Denotes name (voidArrays k) := by
  induction h with
  | here => exact .voidArray
  | array h _ ih =>
      rcases Spelling.component?_eq_some.mp h with h | h
      · exact .canonicalArray h ih
      · exact .classFileArray h ih

/-- A name that comes down to `[V` and is spelled as an array. -/
lemma OverVoid.of_component {component : List Char} (h : OverVoid k name)
    (hspell : (spell (trim name)).component? = some component) : ∃ k', OverVoid k' component := by
  cases h with
  | here => cases hspell
  | @array k _ component' h hc =>
      rw [h, Option.some_inj] at hspell
      exact ⟨k, hspell ▸ hc⟩

/-- Of the names that are not spelled as an array, only `[V` comes down to `[V`. -/
lemma OverVoid.eq_of_component (h : OverVoid k name)
    (hspell : (spell (trim name)).component? = none) : name = ['[', 'V'] := by
  cases h with
  | here => rfl
  | array h _ => rw [h] at hspell; cases hspell

/-- A name that denotes a type can be read, or comes down to `[V`. -/
lemma Denotes.readable_or_overVoid (h : Denotes name d) :
    readable name = true ∨ ∃ k, OverVoid k name := by
  induction h with
  | canonicalArray h _ ih | classFileArray h _ ih =>
      rcases ih with ih | ⟨k, ih⟩
      · left
        rw [readable]
        split <;> simp_all
      · exact Or.inr ⟨k + 1, .array (by rw [h]; rfl) ih⟩
  | voidArray => exact Or.inr ⟨0, .here⟩
  | keyword h | primitiveArray h | className h =>
      left
      rw [readable]
      split <;> simp_all

/-- A name that comes down to `[V` is answered only if `[V` is remembered. -/
lemma OverVoid.knowsVoidArray (hover : OverVoid k name) (hr : Grounded r)
    (h : r.describe name = .ok (d, r')) : KnowsVoidArray r := by
  fun_induction describe r name generalizing k d r' with
  | case1 =>
      rename_i hknown
      have hname := hr.denotes hknown
      rw [String.toList_ofList] at hname
      rw [hname.unique hover.denotes] at hknown
      exact hr.knowsVoidArray hknown
  | case2 => cases h
  | case4 | case5 =>
      rename_i hspell _ _ ih
      obtain ⟨c, r₁, hc, -, -⟩ := eq_ok_of_component h
      obtain ⟨k', hover⟩ := hover.of_component (by rw [hspell]; rfl)
      exact ih hover hc
  | case3 | case6 | case7 =>
      -- `[V` itself is malformed
      have heq := hover.eq_of_component (by simp [*, Spelling.component?])
      subst heq
      simp_all [spell_voidArray]

/-- A name that comes down to `[V` is answered if `[V` is remembered. -/
lemma OverVoid.describe_isOk (hover : OverVoid k name) (hr : KnowsVoidArray r) :
    ∃ d r', r.describe name = .ok (d, r') := by
  fun_induction describe r name generalizing k with
  | case2 =>
      rename_i hnew hspell
      obtain rfl := hover.eq_of_component (by rw [hspell]; rfl)
      cases hr.symm.trans hnew
  | case4 | case5 =>
      rename_i hspell _ _ ih
      obtain ⟨k', hover⟩ := hover.of_component (by rw [hspell]; rfl)
      obtain ⟨c, r₁, hc⟩ := ih hover
      rw [hc]
      exact ⟨_, _, rfl⟩
  | case1 | case3 | case6 | case7 => exact ⟨_, _, rfl⟩

/-! ## The answer after any history -/

/-- What a grounded registry answers: what can be read, and what comes down to `[V` if that is
remembered. -/
lemma Grounded.describe_isOk_iff (hr : Grounded r) :
    (∃ r', r.describe name = .ok (d, r')) ↔
      Denotes name d ∧ (readable name = true ∨ (∃ k, OverVoid k name) ∧ KnowsVoidArray r) := by
  constructor
  · rintro ⟨r', h⟩
    have hname := (hr.describe h).1
    refine ⟨hname, hname.readable_or_overVoid.imp_right ?_⟩
    rintro ⟨k, hover⟩
    exact ⟨⟨k, hover⟩, hover.knowsVoidArray hr h⟩
  · rintro ⟨hname, hcan⟩
    have hok : ∃ e r', r.describe name = .ok (e, r') := by
      rcases hcan with hread | ⟨⟨k, hover⟩, hknows⟩
      · exact Registry.describe_isOk hread r
      · exact hover.describe_isOk hknows
    obtain ⟨e, r', h⟩ := hok
    obtain rfl := (hr.describe h).1.unique hname
    exact ⟨r', h⟩

/-- **The answer to a name does not depend on what was read before**, with one exception.  After any
calls, a name is answered with a type exactly if a new registry answers it so, or if the name comes
down to `[V`, the type is the array of `void` in as many layers, and one of the calls was answered
with an array of `void`. -/
theorem describe_after_calls (calls : List Call) (name : List Char) (d : Descriptor) :
    (∃ r', (after calls).describe name = .ok (d, r')) ↔
      (∃ r', empty.describe name = .ok (d, r')) ∨
        (∃ k, OverVoid k name ∧ d = voidArrays k) ∧ ∃ k, voidArrays k ∈ answers empty calls := by
  rw [(grounded_after calls).describe_isOk_iff, grounded_empty.describe_isOk_iff,
    knowsVoidArray_after]
  constructor
  · rintro ⟨hname, hread | ⟨⟨k, hover⟩, hanswered⟩⟩
    · exact Or.inl ⟨hname, Or.inl hread⟩
    · exact Or.inr ⟨⟨k, hover, hname.unique hover.denotes⟩, hanswered⟩
  · rintro (⟨hname, hread | ⟨-, hknows⟩⟩ | ⟨⟨k, hover, rfl⟩, hanswered⟩)
    · exact ⟨hname, Or.inl hread⟩
    · exact absurd hknows not_knowsVoidArray_empty
    · exact ⟨hover.denotes, Or.inr ⟨⟨k, hover⟩, hanswered⟩⟩

/-- A new registry does not read `[V`; one that was asked for `void[]` before answers it. -/
theorem describe_voidArray_after_call :
    empty.describe "[V".toList = .error (.invalidTypeName "[V") ∧
      ∃ r', (after [.describe "void[]".toList]).describe "[V".toList =
        .ok (.array (.primitive .void), r') := by
  constructor
  · have hnew : empty.get? (String.ofList "[V".toList) = none := by simp [empty, get?]
    rw [describe]
    split
    · simp_all
    · split
      · rfl
      all_goals
        rename_i hspell
        cases hspell
  · have hvoid : Denotes "void[]".toList (voidArrays 0) :=
      .canonicalArray (by decide : spell (trim "void[]".toList) = .canonicalArray "void".toList)
        (.keyword (by decide))
    obtain ⟨r', h⟩ := grounded_empty.describe_isOk_iff.mpr ⟨hvoid, Or.inl (by decide +kernel)⟩
    have hanswer : (Call.describe "void[]".toList).answer? empty = some (voidArrays 0, r') := by
      rw [Call.answer?, h]
      rfl
    have hanswered : voidArrays 0 ∈ answers empty [.describe "void[]".toList] := by
      rw [answers, hanswer]
      exact List.mem_cons_self
    exact (grounded_after _).describe_isOk_iff.mpr
      ⟨.voidArray, Or.inr ⟨⟨0, .here⟩, (knowsVoidArray_after _).mpr ⟨0, hanswered⟩⟩⟩

end ClassAtlas.Registry
