import ClassAtlas.Proofs.Linker.Reachable
import ClassAtlas.Proofs.TypeName.NormalForm

/-!
# Asking for classes

A class is asked for by any name of its type.  Asking adds the class if it is new, and before it
the parts of its type that are new; looking up adds nothing.

* `Descriptor.parts` — a type and the types it is made of.
* `Atlas.Reachable` — the atlases there can be while classes are asked for and linked.
* `Atlas.intern_name` — asking for a type by its own name is placing it: no name is read that could
  fail; `Named.component_of_intern` — so the class of an array is added after asking for its
  component.
* `intern_answers` — **what asking does**: it fails and changes nothing, or it answers with the one
  class of the type, and adds exactly the parts of the type that were missing.
* `get?_name_fullName` — **every class is found by its binary name**, and by its canonical name
  unless it is an array that nothing has asked for by that name.
-/

namespace ClassAtlas

open Registry

/-! ## The parts of a type -/

namespace Descriptor

/-- A type and the types it is made of: what is inside all array layers, then one layer after the
other. -/
def parts : Descriptor → List Descriptor
  | .array component => component.parts ++ [.array component]
  | .primitive p => [.primitive p]
  | .object className => [.object className]

/-- The separators in the element of an array are dots. -/
lemma Proper.replaceChar_elementText : ∀ {d : Descriptor}, d.Proper →
    Text.replaceChar '/' '.' d.elementText = d.elementText
  | .primitive p, _ => by cases p <;> rfl
  | .object className, h => by
      have hclass := (spell_eq_className.mp h.2).2.2.2.2.1
      rw [Text.replaceChar] at hclass ⊢
      rw [elementText, List.map_cons, List.map_append, ← hclass]
      rfl
  | .array component, h => by
      have ih := Proper.replaceChar_elementText (d := component) h
      rw [Text.replaceChar] at ih ⊢
      rw [elementText, List.map_cons, ih]
      rfl

lemma Proper.replaceChar_name {d : Descriptor} (hd : d.Proper) :
    Text.replaceChar '/' '.' d.name.toList = d.name.toList := by
  cases d with
  | primitive p => cases p <;> rfl
  | object className => exact (spell_eq_className.mp hd.2).2.2.2.2.1.symm
  | array component =>
      rw [toList_name_array_eq]
      exact Proper.replaceChar_elementText (d := .array component) hd

lemma Proper.replaceChar_fullName : ∀ {d : Descriptor}, d.Proper →
    Text.replaceChar '/' '.' d.fullName.toList = d.fullName.toList
  | .primitive _, h => h.replaceChar_name
  | .object _, h => h.replaceChar_name
  | .array component, h => by
      have ih := Proper.replaceChar_fullName (d := component) h
      rw [Text.replaceChar] at ih ⊢
      rw [toList_fullName_array, List.map_append, ih]
      rfl

end Descriptor

namespace Atlas

/-! ## The types of the classes -/

/-- The types of the classes, in order. -/
def types (a : Atlas) : List Descriptor :=
  a.classes.toList.map (·.type)

lemma mem_types {a : Atlas} {d : Descriptor} :
    d ∈ a.types ↔ ∃ id : ClassId, id.index < a.classes.size ∧ (a.cls id).type = d := by
  rw [types, List.mem_map]
  constructor
  · rintro ⟨c, hc, rfl⟩
    obtain ⟨i, hi, rfl⟩ := Array.mem_iff_getElem.mp (Array.mem_toList_iff.mp hc)
    exact ⟨⟨i⟩, hi, by simp [cls, hi]⟩
  · rintro ⟨id, hid, rfl⟩
    exact ⟨a.cls id, by simp [cls, hid], rfl⟩

/-- A type has a class if its binary name is known. -/
lemma Named.mem_types_iff {a : Atlas} (ha : Named a) {d : Descriptor} (hd : d.Proper) :
    d ∈ a.types ↔ ∃ id, a.names.get? d.name = some id := by
  rw [mem_types]
  constructor
  · rintro ⟨id, hid, rfl⟩
    exact ⟨id, ha.own id hid⟩
  · rintro ⟨id, hid⟩
    exact ⟨id, ha.inRange hid, ha.type_eq hid (denotes_name hd)⟩

lemma Named.not_mem_types {a : Atlas} (ha : Named a) {d : Descriptor} (hd : d.Proper)
    (h : a.names.get? d.name = none) : d ∉ a.types := by
  intro hmem
  obtain ⟨id, hid⟩ := (ha.mem_types_iff hd).mp hmem
  rw [h] at hid
  cases hid

/-- With a type, its parts have classes. -/
lemma Named.parts_subset {a : Atlas} (ha : Named a) :
    ∀ {d : Descriptor}, d ∈ a.types → ∀ e ∈ d.parts, e ∈ a.types
  | .primitive _, hd, e, he => by
      rw [Descriptor.parts, List.mem_singleton] at he
      exact he ▸ hd
  | .object _, hd, e, he => by
      rw [Descriptor.parts, List.mem_singleton] at he
      exact he ▸ hd
  | .array component, hd, e, he => by
      rw [Descriptor.parts, List.mem_append, List.mem_singleton] at he
      rcases he with he | rfl
      · obtain ⟨id, hid, htype⟩ := mem_types.mp hd
        have hcomposed := ha.composed id hid
        rw [htype] at hcomposed
        rcases hcomposed with ⟨-, hfalse⟩ | ⟨c, -, hlt, harray⟩
        · cases hfalse
        · rw [Descriptor.array.injEq] at harray
          exact ha.parts_subset (mem_types.mpr ⟨c, hlt.trans hid, harray.symm⟩) e he
      · exact hd

lemma Named.filter_parts {a : Atlas} (ha : Named a) {d : Descriptor} (hd : d ∈ a.types) :
    d.parts.filter (· ∉ a.types) = [] := by
  rw [List.filter_eq_nil_iff]
  intro e he
  simpa using ha.parts_subset hd e he

lemma types_addStub (a : Atlas) (d : Descriptor) (component : Option ClassId) :
    (a.addStub d component).2.types = a.types ++ [d] := by
  simp [types, addStub]

/-- **Placing a type adds the parts of it that are new**, the inner ones first. -/
lemma Named.types_place {a : Atlas} (ha : Named a) {d : Descriptor} (hd : d.Proper) :
    (Atlas.place d a).2.types = a.types ++ d.parts.filter (· ∉ a.types) := by
  refine place_induction (P := fun d a p => Named a → d.Proper →
    p.2.types = a.types ++ d.parts.filter (· ∉ a.types)) (fun d a id hknown ha hd => ?_)
    (fun c a hnew ih ha hd => ?_) (fun d a harray hnew ha hd => ?_) d a ha hd
  · rw [ha.filter_parts ((ha.mem_types_iff hd).mpr ⟨id, hknown⟩), List.append_nil]
  · rw [types_addStub, ih ha hd, Descriptor.parts, List.filter_append, List.append_assoc]
    simp [ha.not_mem_types hd hnew]
  · have hnew := ha.not_mem_types hd hnew
    rw [types_addStub]
    cases d with
    | array _ => cases harray
    | _ => simp [Descriptor.parts, hnew]

/-! ## Asking -/

/-- The type of the class that a name stands for is what the name is read as. -/
lemma Named.type_of_intern {a a' : Atlas} (ha : Named a) {name : String} {id : ClassId}
    (h : a.intern name = .ok (id, a')) :
    ∃ r, a.registry.describe name.toList = .ok ((a'.cls id).type, r) := by
  rcases intern_eq_ok h with ⟨hknown, rfl⟩ | ⟨-, d, r, hread, -, -⟩
  · refine ⟨a'.registry, ?_⟩
    rw [Registry.describe]
    simp [ha.registered hknown]
  · have hden := (ha.grounded.describe hread).1
    exact ⟨r, by rw [(ha.intern h).type_eq (names_intern h) hden]; exact hread⟩

/-- **Asking adds the parts of the type that are new.** -/
lemma Named.types_intern {a a' : Atlas} (ha : Named a) {name : String} {id : ClassId}
    (h : a.intern name = .ok (id, a')) :
    a'.types = a.types ++ (a'.cls id).type.parts.filter (· ∉ a.types) := by
  rcases intern_eq_ok h with ⟨hknown, rfl⟩ | ⟨-, d, r, hread, rfl, rfl⟩
  · have hmem : (a'.cls id).type ∈ a'.types := mem_types.mpr ⟨id, ha.inRange hknown, rfl⟩
    rw [ha.filter_parts hmem, List.append_nil]
  · obtain ⟨hden, hlearned, hgrounded⟩ := ha.grounded.describe hread
    have hstart : Named { a with registry := r } := ha.withRegistry hgrounded hlearned.mono
    rw [(ha.intern h).type_eq (names_intern h) hden]
    exact hstart.types_place hden.proper

/-- What becomes known by asking: the name itself and binary names. -/
lemma Named.known_of_intern {a a' : Atlas} (ha : Named a) {name n : String} {id i : ClassId}
    (h : a.intern name = .ok (id, a')) (hn : a'.names.get? n = some i) :
    a.names.get? n = some i ∨ n = name ∨ ∃ d : Descriptor, d.Proper ∧ n = d.name := by
  rcases intern_eq_ok h with ⟨-, rfl⟩ | ⟨-, d, r, hread, -, rfl⟩
  · exact Or.inl hn
  · simp only [get?_names_insert] at hn
    split_ifs at hn with hname
    · exact Or.inr (Or.inl hname.symm)
    · rcases names_place (ha.grounded.describe hread).1.proper hn with hold | ⟨e, he, -, heq⟩
      · exact Or.inl hold
      · exact Or.inr (Or.inr ⟨e, he, heq⟩)

/-- Asking for a class by the canonical name of its type. -/
lemma Named.intern_fullName {a : Atlas} (ha : Named a) {id : ClassId}
    (hid : id.index < a.classes.size) :
    ∃ b, a.intern (a.cls id).fullName = .ok (id, b) ∧ b.classes = a.classes := by
  have hproper := ha.proper hid
  obtain ⟨i, b, h⟩ := intern_isOk (readable_fullName hproper) a
  rcases intern_eq_ok h with ⟨hknown, rfl⟩ | ⟨-, d, r, hread, hi, hb⟩
  · have htype := ha.type_eq hknown (denotes_fullName hproper)
    have hsame : i = id := ha.name_inj (ha.inRange hknown) hid (congrArg Descriptor.name htype)
    exact ⟨b, hsame ▸ h, rfl⟩
  · have hd : d = (a.cls id).type :=
      (ha.grounded.describe hread).1.unique (denotes_fullName hproper)
    have hplace : Atlas.place d { a with registry := r } = (id, { a with registry := r }) :=
      place_of_known (by rw [hd]; exact ha.own id hid)
    rw [hplace] at hi hb
    subst hi
    exact ⟨b, h, hb ▸ rfl⟩

/-- **Asking for a type by its own name is placing it**, if the registry remembers the type.  Since
it remembers the component of every array it remembers, an array can be placed by asking for its
component. -/
theorem intern_name {a : Atlas} {d : Descriptor} (hd : a.registry.get? d.name = some d) :
    ∃ b, a.intern d.name = .ok ((place d a).1, b) ∧ b.classes = (place d a).2.classes ∧
      b.registry = (place d a).2.registry ∧
      ∀ n, b.names.get? n = (place d a).2.names.get? n := by
  rcases hknown : a.names.get? d.name with _ | id
  · have hread : a.registry.describe d.name.toList = .ok (d, a.registry) := by
      rw [Registry.describe]
      simp [hd]
    refine ⟨{ (place d a).2 with names := (place d a).2.names.insert d.name (place d a).1 }, ?_,
      rfl, rfl, fun n => ?_⟩
    · simp only [intern, hknown, hread]
      rfl
    · simp only [get?_names_insert]
      split_ifs with hn
      · rw [← hn, (grows_place d a).2]
      · rfl
  · rw [place_of_known hknown]
    refine ⟨a, ?_, rfl, rfl, fun _ => rfl⟩
    simp only [intern, hknown]

/-- **A new array is added after asking for its component** by the binary name of it, and this does
not fail: reading the name of the array made the registry remember the component. -/
lemma Named.component_of_intern {a a' : Atlas} (ha : Named a) {name : String} {id : ClassId}
    (h : a.intern name = .ok (id, a')) {c : Descriptor} (htype : (a'.cls id).type = .array c)
    (hnew : a.classes.size ≤ id.index) :
    ∃ r i b, a.registry.describe name.toList = .ok (.array c, r) ∧
      Atlas.intern { a with registry := r } c.name = .ok (i, b) ∧
      a'.classes = b.classes.push { id := id, type := .array c, component := some i } := by
  rcases intern_eq_ok h with ⟨hknown, rfl⟩ | ⟨-, d, r, hread, hid, rfl⟩
  · exact absurd (ha.inRange hknown) (not_lt.mpr hnew)
  · obtain ⟨hden, hlearned, hgrounded⟩ := ha.grounded.describe hread
    obtain rfl : d = .array c := ((ha.intern h).type_eq (names_intern h) hden).symm.trans htype
    have hunknown : a.names.get? (Descriptor.array c).name = none := by
      refine Option.eq_none_iff_forall_ne_some.mpr fun j hj => ?_
      have hplace := place_of_known (a := { a with registry := r }) hj
      rw [hplace] at hid
      subst hid
      exact absurd (ha.inRange hj) (not_lt.mpr hnew)
    obtain ⟨b, hb, hclasses, -⟩ := intern_name (a := { a with registry := r })
      (hgrounded.component hlearned.own)
    refine ⟨r, _, b, hread, hb, ?_⟩
    rw [hclasses, hid]
    simp only [Atlas.place, hunknown]
    rfl

/-- Two names are answered with the same class if their types have the same name. -/
lemma Named.intern_eq_iff {a b : Atlas} (ha : Named a) {id i : ClassId}
    (hid : id.index < a.classes.size) {n : String} {d : Descriptor} {r : Registry}
    (hread : a.registry.describe n.toList = .ok (d, r)) (h : a.intern n = .ok (i, b)) :
    i = id ↔ d.name = (a.cls id).name := by
  have hb := ha.intern h
  have hgrows := grows_intern h
  have hi : (b.cls i).type = d :=
    hb.type_eq (names_intern h) (ha.grounded.describe hread).1
  have hold : b.cls id = a.cls id := hgrows.cls id hid
  constructor
  · rintro rfl
    rw [← hi, hold]
    rfl
  · intro hname
    refine hb.name_inj (hb.inRange (names_intern h)) (hid.trans_le hgrows.classesSize) ?_
    rw [hold, ← hname, ← hi]
    rfl

/-- Asking fails only if the name cannot be read. -/
lemma describe_of_intern {a : Atlas} {name : String} {e : ModelError}
    (h : a.intern name = .error e) : a.registry.describe name.toList = .error e := by
  unfold intern at h
  rcases hknown : a.names.get? name with _ | id
  · rcases hread : a.registry.describe name.toList with e' | ⟨d, r⟩
    · rw [hknown, hread] at h
      cases h
      rfl
    · rw [hknown, hread] at h
      cases h
  · rw [hknown] at h
    cases h

/-- What asking for the class of a name leads to. -/
structure Answers (a : Atlas) (name : String) (id : ClassId) (a' : Atlas) : Prop where
  taken : id.index < a'.classes.size
  /-- The name is read as the type of the class. -/
  read : ∃ r, a.registry.describe name.toList = .ok ((a'.cls id).type, r)
  /-- Asking again, by the same name or by one that the class has itself. -/
  again : ∀ n ∈ [name, (a'.cls id).name, (a'.cls id).fullName],
    ∃ b, a'.intern n = .ok (id, b) ∧ b.classes = a'.classes
  /-- Any other name is accepted if it can be read. -/
  accepted : ∀ n, (∃ i b, a'.intern n = .ok (i, b)) ↔
    ∃ d r, a'.registry.describe n.toList = .ok (d, r)
  /-- The class is the answer to the names whose type has its name. -/
  other : ∀ n d r i b, a'.registry.describe n.toList = .ok (d, r) → a'.intern n = .ok (i, b) →
    (i = id ↔ d.name = (a'.cls id).name)
  kept : ∀ c : ClassId, c.index < a.classes.size → a'.cls c = a.cls c
  /-- The parts of the type that had no class are added in their order, and nothing else is. -/
  created : a'.types = a.types ++ (a'.cls id).type.parts.filter (· ∉ a.types)
  /-- What is added has no record, and nothing of it is linked. -/
  bare : ∀ c : ClassId, a.classes.size ≤ c.index → (a'.cls c).Bare
  /-- The class of a new array is added after asking for its component by its binary name. -/
  component : ∀ c, (a'.cls id).type = .array c → a.classes.size ≤ id.index →
    ∃ r i b, a.registry.describe name.toList = .ok (.array c, r) ∧
      Atlas.intern { a with registry := r } c.name = .ok (i, b) ∧
      a'.classes = b.classes.push { id := id, type := .array c, component := some i }
  /-- A component comes before its array. -/
  composed : ∀ c : ClassId, c.index < a'.classes.size →
    a'.Composed c (a'.cls c).type (a'.cls c).component

lemma Named.answers {a a' : Atlas} (ha : Named a) {name : String} {id : ClassId}
    (h : a.intern name = .ok (id, a')) : Answers a name id a' := by
  have ha' := ha.intern h
  have hid : id.index < a'.classes.size := ha'.inRange (names_intern h)
  have hknown : ∀ {n : String}, a'.names.get? n = some id →
      ∃ b, a'.intern n = .ok (id, b) ∧ b.classes = a'.classes := by
    intro n hn
    exact ⟨a', by simp only [Atlas.intern, hn], rfl⟩
  constructor
  · exact hid
  · exact ha.type_of_intern h
  · intro n hn
    simp only [List.mem_cons, List.not_mem_nil, or_false] at hn
    rcases hn with rfl | rfl | rfl
    · exact hknown (names_intern h)
    · exact hknown (ha'.own id hid)
    · exact ha'.intern_fullName hid
  · intro n
    constructor
    · rintro ⟨i, b, hi⟩
      exact ⟨_, ha'.type_of_intern hi⟩
    · exact intern_of_describe
  · intro n d r i b hread hi
    exact ha'.intern_eq_iff hid hread hi
  · exact (grows_intern h).cls
  · exact ha.types_intern h
  · exact (grows_intern h).bare
  · exact fun c htype hnew => ha.component_of_intern h htype hnew
  · exact ha'.composed

/-! ## Looking up -/

lemma mem_names_iff {a : Atlas} {name : String} :
    name ∈ a.names ↔ ∃ id, a.names.get? name = some id := by
  rw [← Std.HashMap.isSome_getElem?_iff_mem, Option.isSome_iff_exists]
  rfl

/-- A name without `/` is looked up as it stands. -/
lemma get?_eq_names {a : Atlas} {name : String}
    (h : Text.replaceChar '/' '.' name.toList = name.toList) : a.get? name = a.names.get? name := by
  rw [get?, h, String.ofList_toList]
  rcases a.names.get? name with _ | id <;> rfl

/-- A class is found by its binary name. -/
lemma Named.get?_name {a : Atlas} (ha : Named a) {c : ClassId} (hc : c.index < a.classes.size) :
    a.get? (a.cls c).name = some c := by
  have hplain : Text.replaceChar '/' '.' (a.cls c).name.toList = (a.cls c).name.toList :=
    (ha.proper hc).replaceChar_name
  rw [get?_eq_names hplain, ha.own c hc]

/-- The canonical name of a class stands for this class or is not known. -/
lemma Named.get?_fullName {a : Atlas} (ha : Named a) {c : ClassId}
    (hc : c.index < a.classes.size) :
    a.get? (a.cls c).fullName = if (a.cls c).fullName ∈ a.names then some c else none := by
  have hproper := ha.proper hc
  have hplain : Text.replaceChar '/' '.' (a.cls c).fullName.toList = (a.cls c).fullName.toList :=
    hproper.replaceChar_fullName
  rw [get?_eq_names hplain]
  split_ifs with hmem
  · obtain ⟨i, hi⟩ := mem_names_iff.mp hmem
    have htype := ha.type_eq hi (denotes_fullName hproper)
    have hsame : i = c := ha.name_inj (ha.inRange hi) hc (congrArg Descriptor.name htype)
    subst hsame
    exact hi
  · exact Std.HashMap.getElem?_eq_none hmem

/-- The canonical name of what is no array is its binary name, which is known. -/
lemma Named.fullName_mem {a : Atlas} (ha : Named a) {c : ClassId} (hc : c.index < a.classes.size)
    (harray : (a.cls c).isArray = false) : (a.cls c).fullName ∈ a.names := by
  have hname : (a.cls c).fullName = (a.cls c).name := Descriptor.fullName_eq_name harray
  rw [hname]
  exact mem_names_iff.mpr ⟨c, ha.own c hc⟩

end Atlas

namespace Linker

/-! ## A linker without records -/

/-- A linker without any records. -/
def idle : Linker where
  context := Batch.context ⟨[]⟩
  options := {}
  atlas := .empty
  phase := .created
  pending := []
  undeclared := []

/-- The type `int[][]`. -/
def grid : Descriptor :=
  .array (.array (.primitive .int))

lemma denotes_grid : Denotes "int[][]".toList grid :=
  denotes_fullName (d := grid) trivial

/-- The atlas without records is what asking for `java.lang.Object` gives. -/
lemma exists_intern_idle : ∃ id, Atlas.intern {} objectClassName = .ok (id, idle.atlas) := by
  have hread : readable objectClassName.toList = true := by decide +kernel
  obtain ⟨id, a, h⟩ := Atlas.intern_isOk hread {}
  have hempty : idle.atlas = a := by rw [idle, Atlas.empty, h]
  exact ⟨id, hempty ▸ h⟩

lemma types_idle : idle.atlas.types = [.object objectClassName] := by
  obtain ⟨id, h⟩ := exists_intern_idle
  have hobject : Denotes objectClassName.toList (.object objectClassName) :=
    denotes_name (d := .object objectClassName) (by decide)
  have htype := (Atlas.named_init.intern h).type_eq (Atlas.names_intern h) hobject
  rw [Atlas.named_init.types_intern h, htype]
  rfl

/-- Without records, the phases have nothing to do. -/
lemma run_phases_of_no_imports {s : Linker} (himported : s.atlas.imported.toList = [])
    (hphase : s.phase = .created) (hpending : s.pending = []) :
    (s.run [.hierarchy, .members, .accesses]).2 = { s with phase := .accesses } := by
  have hget : ∀ t : Linker, (get : LinkM Linker) t = .ok t t := fun _ => rfl
  have hhierarchy : (s.perform .hierarchy).2 = { s with phase := .hierarchy } := by
    rw [perform_of_phase (r := .hierarchy) rfl hphase]
    simp only [hierarchyBody, bind_of_ok (hget _), himported]
    rfl
  have hmembers : (perform { s with phase := .hierarchy } .members).2 =
      { s with phase := .members } := by
    rw [perform_of_phase (r := .members) rfl rfl]
    simp only [membersBody, bind_of_ok (hget _), himported]
    rfl
  have haccesses : (perform { s with phase := .members } .accesses).2 =
      { s with phase := .accesses } := by
    rw [perform_of_phase (r := .accesses) rfl rfl]
    obtain ⟨context, options, atlas, phase, pending, undeclared⟩ := s
    cases hpending
    rfl
  rw [run, hhierarchy, run, hmembers, run, haccesses, run]

/-- Asking for `int[][]` without any records, and then linking. -/
lemma completed_grid : ∃ id a, idle.atlas.intern "int[][]" = .ok (id, a) ∧
    Completed (Batch.context ⟨[]⟩) a := by
  obtain ⟨id, a, h⟩ := Atlas.intern_isOk (show readable "int[][]".toList = true by decide +kernel)
    idle.atlas
  refine ⟨id, a, h, {}, .none, idle, [.cls "int[][]", .hierarchy, .members, .accesses], rfl, ?_⟩
  have hcls : (idle.perform (.cls "int[][]")).2 = { idle with atlas := a } := by
    have hrun : intern "int[][]" idle = .ok id { idle with atlas := a } := intern_of_ok h
    rw [perform, Request.step, EStateM.run, bind_of_ok hrun]
    rfl
  have himported : a.imported.toList = [] := by
    rw [(Atlas.grows_intern h).imported.trans Atlas.imported_empty]
  rw [run, hcls]
  dsimp only
  rw [run_phases_of_no_imports himported rfl rfl]
  rfl

/-- The canonical name of `int[]` does not become known by asking for `int[][]`. -/
lemma not_known_row {id : ClassId} {a : Atlas} (h : idle.atlas.intern "int[][]" = .ok (id, a)) :
    "int[]" ∉ a.names := by
  have hrow : Denotes "int[]".toList (.array (.primitive .int)) :=
    denotes_fullName (d := .array (.primitive .int)) trivial
  have hbinary : ¬ ∃ d : Descriptor, d.Proper ∧ "int[]" = d.name := by
    rintro ⟨d, hd, hname⟩
    have heq : d = .array (.primitive .int) := (denotes_name hd).unique (hname ▸ hrow)
    rw [heq] at hname
    exact absurd hname (by decide)
  intro hmem
  obtain ⟨i, hi⟩ := Atlas.mem_names_iff.mp hmem
  rcases Atlas.registered_empty.named.known_of_intern h hi with hidle | hname | hname
  · obtain ⟨o, ho⟩ := exists_intern_idle
    rcases Atlas.named_init.known_of_intern ho hidle with hnone | hname | hname
    · simp at hnone
    · exact absurd hname (by decide)
    · exact hbinary hname
  · exact absurd hname (by decide)
  · exact hbinary hname

/-! ## Asking a linker -/

/-- **Asking for the class of a name** fails if the name cannot be read, and then nothing has
changed; otherwise it leads to an atlas with the class, and nothing but the atlas has changed. -/
theorem intern_answers {s : Linker} (hs : s.atlas.Reachable) (name : String) :
    (∃ e, s.atlas.registry.describe name.toList = .error e ∧ (intern name).run s = .error e s) ∨
      ∃ id a, (intern name).run s = .ok id { s with atlas := a } ∧ s.atlas.Answers name id a := by
  rcases h : s.atlas.intern name with e | ⟨id, a⟩
  · exact Or.inl ⟨e, Atlas.describe_of_intern h, intern_of_error h⟩
  · exact Or.inr ⟨id, a, intern_of_ok h, hs.named.answers h⟩

/-- Asking for a type in two layers of arrays, when only `java.lang.Object` is there: all three
parts of it are new. -/
theorem intern_answers_grid : ∃ id a,
    (intern "int[][]").run idle = .ok id { idle with atlas := a } ∧
      idle.atlas.Answers "int[][]" id a ∧ (a.cls id).type = grid ∧
      a.types = [.object "java.lang.Object", .primitive .int, .array (.primitive .int), grid] := by
  have hgrounded := Atlas.registered_empty.named.grounded
  rcases intern_answers (s := idle) .empty "int[][]" with ⟨e, hread, -⟩ | ⟨id, a, hok, hanswers⟩
  · obtain ⟨d, r, hd⟩ := describe_isOk (show readable "int[][]".toList = true by decide +kernel)
      idle.atlas.registry
    rw [hread] at hd
    cases hd
  · obtain ⟨r, hread⟩ := hanswers.read
    have htype : (a.cls id).type = grid := (hgrounded.describe hread).1.unique denotes_grid
    refine ⟨id, a, hok, hanswers, htype, ?_⟩
    rw [hanswers.created, htype, types_idle]
    decide

variable {context : ImportContext} {a : Atlas}

/-- **Every class is found by its binary name.**  It is found by its canonical name too, unless it
is an array and this name was never asked for; asking for it then gives the class. -/
theorem get?_name_fullName (h : Completed context a) {c : ClassId}
    (hc : c.index < a.classes.size) :
    a.get? (a.cls c).name = some c ∧
    (a.get? (a.cls c).fullName =
      if (a.cls c).isArray = true ∧ (a.cls c).fullName ∉ a.names then none else some c) ∧
    ∃ b, a.intern (a.cls c).fullName = .ok (c, b) ∧ b.classes = a.classes := by
  obtain ⟨s, hs, rfl⟩ := h.exists_valid
  have hnamed := hs.wf.named
  refine ⟨hnamed.get?_name hc, ?_, hnamed.intern_fullName hc⟩
  rw [hnamed.get?_fullName hc]
  by_cases hmem : (s.atlas.cls c).fullName ∈ s.atlas.names
  · rw [if_pos hmem, if_neg fun hnone => hnone.2 hmem]
  · have harray : (s.atlas.cls c).isArray = true := by
      by_contra hfalse
      exact hmem (hnamed.fullName_mem hc (Bool.eq_false_of_not_eq_true hfalse))
    rw [if_neg hmem, if_pos ⟨harray, hmem⟩]

/-- A type that was asked for by its canonical name is found by both its names. -/
theorem get?_name_fullName_grid : ∃ a c, Completed (Batch.context ⟨[]⟩) a ∧
    c.index < a.classes.size ∧ (a.cls c).type = grid ∧ a.get? "[[I" = some c ∧
    a.get? "int[][]" = some c := by
  obtain ⟨c, a, h, hcompleted⟩ := completed_grid
  have hnamed : a.Named := Atlas.registered_empty.named.intern h
  have hknown := Atlas.names_intern h
  have hc : c.index < a.classes.size := hnamed.inRange hknown
  have htype : (a.cls c).type = grid := hnamed.type_eq hknown denotes_grid
  have hname : (a.cls c).name = "[[I" := congrArg Descriptor.name htype
  have hfullName : (a.cls c).fullName = "int[][]" := congrArg Descriptor.fullName htype
  have hmem : "int[][]" ∈ a.names := Atlas.mem_names_iff.mpr ⟨c, hknown⟩
  obtain ⟨hbinary, hcanonical, -⟩ := get?_name_fullName hcompleted hc
  rw [hname] at hbinary
  rw [hfullName, if_neg fun hnone => hnone.2 hmem] at hcanonical
  exact ⟨a, c, hcompleted, hc, htype, hbinary, hcanonical⟩

/-- Asking for `int[][]` adds the class of `int[]`, but its canonical name stays unknown. -/
theorem canonicalName_unknown : ∃ a c, Completed (Batch.context ⟨[]⟩) a ∧
    c.index < a.classes.size ∧ (a.cls c).name = "[I" ∧ (a.cls c).fullName = "int[]" ∧
    a.get? "int[]" = none := by
  obtain ⟨id, a, h, hcompleted⟩ := completed_grid
  have hnamed : a.Named := Atlas.registered_empty.named.intern h
  have hknown := Atlas.names_intern h
  have htype : (a.cls id).type = grid := hnamed.type_eq hknown denotes_grid
  have hgrid : grid ∈ a.types := Atlas.mem_types.mpr ⟨id, hnamed.inRange hknown, htype⟩
  have hrow : Descriptor.array (.primitive .int) ∈ a.types :=
    hnamed.parts_subset hgrid _ (by decide)
  obtain ⟨c, hc, hctype⟩ := Atlas.mem_types.mp hrow
  have hfullName : (a.cls c).fullName = "int[]" := congrArg Descriptor.fullName hctype
  have hlookup := hnamed.get?_fullName hc
  rw [hfullName, if_neg (not_known_row h)] at hlookup
  exact ⟨a, c, hcompleted, hc, congrArg Descriptor.name hctype, hfullName, hlookup⟩

end Linker

end ClassAtlas
