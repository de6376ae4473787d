import ClassAtlas.Batch
import ClassAtlas.Proofs.Json.Reading

/-!
# Batches are read as they were written

Every record is written as an object with all its fields, and read field by field.  So a record is
recovered if its parts are, down to texts, truth values and integers.  Two kinds of records nest:
type signatures and the values of annotations.  Their readers count steps, and a value has no more
nested records than it has containers.

* `Record.recovers_typeSig` — any type signature is recovered; the entry `kind` tells which one.
* `AnnotValue.Exact` and the like — records that can be read back: numbers are in the range of their
  types, the properties of an annotation are in order, and there is no fraction.
* `Record.recovers_annot` — annotations of this kind are recovered.
* `Record.recovers_codeUnit`, `Record.recovers_cls` — so are members and classes.
* `Batch.ofText?_toJson` — **a batch is read as it was written**.
-/

namespace ClassAtlas

open Json

/-! ## Type signatures -/

lemma TypeSig.listToJson_eq (sigs : List TypeSig) :
    TypeSig.listToJson sigs = sigs.map TypeSig.toJson := by
  induction sigs with
  | nil => rfl
  | cons sig sigs ih => rw [TypeSig.listToJson, ih, List.map_cons]

lemma TypeSig.toJson_ne_null (sig : TypeSig) : sig.toJson ≠ .null := by
  cases sig <;> simp [TypeSig.toJson]

/-- Nothing in a written signature is unreadable. -/
lemma TypeSig.isSound_toJson (sig : TypeSig) :
    ∀ room, sig.toJson.depth ≤ room → isSound room sig.toJson = true := by
  have hlist : ∀ (sigs : List TypeSig) (room : ℕ),
      (∀ sig ∈ sigs, ∀ room, sig.toJson.depth ≤ room → isSound room sig.toJson = true) →
      (Json.arr (sigs.map TypeSig.toJson)).depth ≤ room →
      isSound room (.arr (sigs.map TypeSig.toJson)) = true := by
    intro sigs room ih hroom
    obtain ⟨r, rfl, hdepth⟩ := depth_arr_le hroom
    rw [isSound, List.all_eq_true]
    intro item hitem
    obtain ⟨sig, hsig, rfl⟩ := List.mem_map.mp hitem
    exact ih sig hsig r (hdepth _ hitem)
  induction sig using TypeSig.inductionOn with
  | cls name | typeVariable name =>
      intro room hroom
      rw [TypeSig.toJson] at hroom ⊢
      obtain ⟨r, rfl, -⟩ := depth_obj_le hroom
      simp [isSound]
  | parameterized raw arguments ih =>
      intro room hroom
      rw [TypeSig.toJson, TypeSig.listToJson_eq] at hroom ⊢
      obtain ⟨r, rfl, hdepth⟩ := depth_obj_le hroom
      simp only [List.mem_cons, List.not_mem_nil, or_false, forall_eq_or_imp, forall_eq] at hdepth
      simp [isSound, hlist arguments r ih hdepth.2.2]
  | wildcard upper lower ihu ihl =>
      intro room hroom
      rw [TypeSig.toJson, TypeSig.listToJson_eq, TypeSig.listToJson_eq] at hroom ⊢
      obtain ⟨r, rfl, hdepth⟩ := depth_obj_le hroom
      simp only [List.mem_cons, List.not_mem_nil, or_false, forall_eq_or_imp, forall_eq] at hdepth
      simp [isSound, hlist upper r ihu hdepth.2.1, hlist lower r ihl hdepth.2.2]
  | genericArray component ih =>
      intro room hroom
      rw [TypeSig.toJson] at hroom ⊢
      obtain ⟨r, rfl, hdepth⟩ := depth_obj_le hroom
      simp only [List.mem_cons, List.not_mem_nil, or_false, forall_eq_or_imp, forall_eq] at hdepth
      simp [isSound, ih r hdepth.2]

namespace Record

/-- A signature of some kind is recovered if what describes it is. -/
lemma recovers_kind {sig : TypeSig} {kind : String} {names : List String}
    {entries : List (String × Json)} {steps : ℕ} {inner : Bool}
    {assemble : Fields → Option TypeSig}
    (hjson : sig.toJson = .obj (("kind", .str kind) :: entries))
    (hstep : ∀ room, typeSigWithin (steps + 1) inner room (.obj (("kind", .str kind) :: entries)) =
      fields names room (.obj entries) >>= assemble)
    (hnames : entries.map Prod.fst = names) (hnodup : names.Nodup)
    (hplain : ∀ entry ∈ entries, entry.2.Plain)
    (hread : ∀ f : Fields, f.Holds entries → assemble f = some sig) :
    Recovers (typeSigWithin (steps + 1) inner) TypeSig.toJson sig := by
  refine ⟨?_, fun room hroom => ?_⟩
  · rw [hjson]
    exact .obj (List.forall_mem_cons.mpr ⟨.str kind, hplain⟩)
  · have hdepth : (Json.obj entries).depth ≤ room := by
      simpa [hjson, depth, entriesDepth] using hroom
    obtain ⟨f, hfields, hf⟩ := fields_obj hnames hnodup hdepth
    rw [hjson, hstep]
    exact bind_eq_some hfields (hread f hf)

/-- A signature is read in as many steps as there are containers in it. -/
lemma recovers_typeSigWithin (sig : TypeSig) : ∀ (steps : ℕ) (inner : Bool),
    sig.toJson.depth ≤ steps → Recovers (typeSigWithin steps inner) TypeSig.toJson sig := by
  induction sig using TypeSig.inductionOn with
  | cls name | typeVariable name =>
      intro steps inner hsteps
      rw [TypeSig.toJson] at hsteps
      obtain ⟨steps, rfl, -⟩ := depth_obj_le hsteps
      refine recovers_kind rfl (fun _ => rfl) rfl (by simp) ?_ fun f hf => ?_
      · simp [Plain.str]
      · exact bind_eq_some ((recovers_text name).required hf rfl) rfl
  | parameterized raw arguments ih =>
      intro steps inner hsteps
      rw [TypeSig.toJson, TypeSig.listToJson_eq] at hsteps
      obtain ⟨steps, rfl, hdepth⟩ := depth_obj_le hsteps
      simp only [List.mem_cons, List.not_mem_nil, or_false, forall_eq_or_imp, forall_eq] at hdepth
      have harguments : ∀ sig ∈ arguments,
          Recovers (typeSigWithin steps true) TypeSig.toJson sig := fun sig hsig =>
        ih sig hsig steps true ((depth_lt_arr (List.mem_map_of_mem hsig)).le.trans hdepth.2.2)
      refine recovers_kind (by rw [TypeSig.toJson, TypeSig.listToJson_eq]) (fun _ => rfl) rfl
        (by simp) ?_ fun f hf => ?_
      · simp [Plain.str, (recovers_list harguments).plain]
      · refine bind_eq_some ((recovers_text raw).required hf rfl) ?_
        exact bind_eq_some (Recovers.listOf harguments hf rfl) rfl
  | wildcard upper lower ihu ihl =>
      intro steps inner hsteps
      rw [TypeSig.toJson, TypeSig.listToJson_eq, TypeSig.listToJson_eq] at hsteps
      obtain ⟨steps, rfl, hdepth⟩ := depth_obj_le hsteps
      simp only [List.mem_cons, List.not_mem_nil, or_false, forall_eq_or_imp, forall_eq] at hdepth
      have hupper : ∀ sig ∈ upper, Recovers (typeSigWithin steps true) TypeSig.toJson sig :=
        fun sig hsig =>
          ihu sig hsig steps true ((depth_lt_arr (List.mem_map_of_mem hsig)).le.trans hdepth.2.1)
      have hlower : ∀ sig ∈ lower, Recovers (typeSigWithin steps true) TypeSig.toJson sig :=
        fun sig hsig =>
          ihl sig hsig steps true ((depth_lt_arr (List.mem_map_of_mem hsig)).le.trans hdepth.2.2)
      refine recovers_kind (by rw [TypeSig.toJson, TypeSig.listToJson_eq, TypeSig.listToJson_eq])
        (fun _ => rfl) rfl (by simp) ?_ fun f hf => ?_
      · simp [(recovers_list hupper).plain, (recovers_list hlower).plain]
      · refine bind_eq_some (Recovers.listOf hupper hf rfl) ?_
        exact bind_eq_some (Recovers.listOf hlower hf rfl) rfl
  | genericArray component ih =>
      intro steps inner hsteps
      rw [TypeSig.toJson] at hsteps
      obtain ⟨steps, rfl, hdepth⟩ := depth_obj_le hsteps
      simp only [List.mem_cons, List.not_mem_nil, or_false, forall_eq_or_imp, forall_eq] at hdepth
      have hcomponent := ih steps true hdepth.2
      refine recovers_kind rfl (fun _ => rfl) rfl (by simp) ?_ fun f hf => ?_
      · simp [hcomponent.plain]
      · exact bind_eq_some (hcomponent.required hf rfl) rfl

lemma recovers_typeSig (sig : TypeSig) : Recovers typeSig TypeSig.toJson sig := by
  refine ⟨(recovers_typeSigWithin sig _ true le_rfl).plain, fun room hroom => ?_⟩
  rw [typeSig, if_pos (sig.isSound_toJson room hroom)]
  exact (recovers_typeSigWithin sig room false hroom).read room hroom

lemma recovers_typeParam (p : TypeParam) : Recovers typeParam TypeParam.toJson p := by
  have hbounds : ∀ sig ∈ p.bounds, Recovers typeSig TypeSig.toJson sig :=
    fun sig _ => recovers_typeSig sig
  refine recovers_record rfl (by decide) ?_ fun f hf => ?_
  · simp [Plain.str, (recovers_list hbounds).plain]
  · refine bind_eq_some ((recovers_text _).required hf rfl) ?_
    exact bind_eq_some (Recovers.listOf hbounds hf rfl) rfl

/-! ## Annotations -/

/-- A property value that can be read back: it is in the range of its type, properties are in
ascending order, and there is no fraction in it. -/
inductive AnnotValue.Exact : AnnotValue → Prop
  | boolean (value : Bool) : Exact (.boolean value)
  | byte {value : Int} (hlow : -2 ^ 7 ≤ value) (hhigh : value ≤ 2 ^ 7 - 1) : Exact (.byte value)
  | char (value : Char) : Exact (.char value)
  | short {value : Int} (hlow : -2 ^ 15 ≤ value) (hhigh : value ≤ 2 ^ 15 - 1) : Exact (.short value)
  | int {value : Int} (hlow : -2 ^ 31 ≤ value) (hhigh : value ≤ 2 ^ 31 - 1) : Exact (.int value)
  | long {value : Int} (hlow : -2 ^ 63 ≤ value) (hhigh : value ≤ 2 ^ 63 - 1) : Exact (.long value)
  | string (value : String) : Exact (.string value)
  | cls (typeName : String) : Exact (.cls typeName)
  | enumConstant (enumType name : String) : Exact (.enumConstant enumType name)
  | nested (type : String) {properties : List (String × AnnotValue)}
      (hsorted : (properties.map Prod.fst).Pairwise (· < ·))
      (hvalues : ∀ property ∈ properties, Exact property.2) : Exact (.nested type properties)
  | array {items : List AnnotValue} (hitems : ∀ item ∈ items, Exact item) : Exact (.array items)

/-- An annotation that can be read back. -/
structure Annot.Exact (a : Annot) : Prop where
  sorted : (a.properties.map Prod.fst).Pairwise (· < ·)
  values : ∀ property ∈ a.properties, property.2.Exact

lemma AnnotValue.listToJson_eq (items : List AnnotValue) :
    AnnotValue.listToJson items = items.map AnnotValue.toJson := by
  induction items with
  | nil => rfl
  | cons item items ih => rw [AnnotValue.listToJson, ih, List.map_cons]

lemma AnnotValue.propertiesToJson_eq (properties : List (String × AnnotValue)) :
    AnnotValue.propertiesToJson properties =
      properties.map fun property => (property.1, property.2.toJson) := by
  induction properties with
  | nil => rfl
  | cons property properties ih => rw [AnnotValue.propertiesToJson, ih, List.map_cons]

/-- A property whose name comes after all others is put at the end. -/
lemma setProperty_of_forall_lt {α : Type} {name : String} {value : α} :
    ∀ {done : List (String × α)}, (∀ entry ∈ done, entry.1 < name) →
      setProperty name value done = done ++ [(name, value)] := by
  intro done h
  induction done with
  | nil => rfl
  | cons entry done ih =>
      have hlt : entry.1 < name := h entry (List.mem_cons_self ..)
      have hne : name ≠ entry.1 := fun heq => String.lt_irrefl name (heq ▸ hlt)
      rw [setProperty, if_neg (String.lt_asymm hlt), if_neg hne,
        ih fun entry hentry => h entry (List.mem_cons_of_mem _ hentry), List.cons_append]

lemma propertiesOf_of_sorted {α : Type} {entries : List (String × α)}
    (h : (entries.map Prod.fst).Pairwise (· < ·)) : propertiesOf entries = entries := by
  have hfoldl : ∀ (entries done : List (String × α)),
      ((done ++ entries).map Prod.fst).Pairwise (· < ·) →
      entries.foldl (fun done entry => setProperty entry.1 entry.2 done) done =
        done ++ entries := by
    intro entries
    induction entries with
    | nil => intro done _; simp
    | cons entry entries ih =>
        intro done hsorted
        have hlast : ∀ other ∈ done, other.1 < entry.1 := by
          intro other hother
          rw [List.map_append, List.pairwise_append] at hsorted
          exact hsorted.2.2 _ (List.mem_map_of_mem hother) _ (by simp)
        rw [List.foldl_cons, setProperty_of_forall_lt hlast, ih _ (by simpa using hsorted)]
        simp
  exact hfoldl entries [] h

/-- The properties are read one after the other. -/
lemma mapM_properties {item : Reader AnnotValue} {room : ℕ} :
    ∀ {properties : List (String × AnnotValue)},
      (∀ property ∈ properties, item room property.2.toJson = some property.2) →
      ((properties.map fun property => (property.1, property.2.toJson)).mapM fun entry =>
        (do return (entry.1, ← item room entry.2) : Option (String × AnnotValue))) =
          some properties := by
  intro properties h
  induction properties with
  | nil => rfl
  | cons property properties ih =>
      rw [List.forall_mem_cons] at h
      rw [List.map_cons, List.mapM_cons]
      exact bind_eq_some (bind_eq_some h.1 rfl) (bind_eq_some (ih h.2) rfl)

/-- An annotation is recovered if its values are. -/
lemma recovers_annotOf {item : Reader AnnotValue} {a : Annot}
    (hsorted : (a.properties.map Prod.fst).Pairwise (· < ·))
    (hvalues : ∀ property ∈ a.properties, Recovers item AnnotValue.toJson property.2) :
    Recovers (annotOf item) Annot.toJson a := by
  have hproperties := AnnotValue.propertiesToJson_eq a.properties
  refine recovers_record rfl (by decide) ?_ fun f hf => ?_
  · have hplain : (Json.obj (AnnotValue.propertiesToJson a.properties)).Plain := by
      rw [hproperties]
      refine .obj fun entry hentry => ?_
      obtain ⟨property, hproperty, rfl⟩ := List.mem_map.mp hentry
      exact (hvalues property hproperty).plain
    simp [Plain.str, hplain]
  · refine bind_eq_some ((recovers_text _).required hf rfl) ?_
    refine bind_eq_some (hf.withDefault rfl fun hroom => ?_) rfl
    obtain ⟨r, hr, hdepth⟩ := depth_obj_le hroom
    have hread : ∀ property ∈ a.properties, item r property.2.toJson = some property.2 := by
      intro property hproperty
      refine (hvalues property hproperty).read r (hdepth (property.1, property.2.toJson) ?_)
      rw [hproperties]
      exact List.mem_map_of_mem hproperty
    rw [hr, hproperties]
    exact bind_eq_some (mapM_properties hread) (congrArg some (propertiesOf_of_sorted hsorted))

/-- A value is recovered if what stands under its only key is. -/
lemma recovers_keyed {α : Type} {reader : Reader α} {writer : α → Json} {x : α} {key : String}
    {steps : ℕ} (make : α → AnnotValue) (hx : Recovers reader writer x)
    (hjson : (make x).toJson = .obj [(key, writer x)])
    (hstep : ∀ room value, annotValueWithin (steps + 1) (room + 1) (.obj [(key, value)]) =
      (reader room value).map make) :
    Recovers (annotValueWithin (steps + 1)) AnnotValue.toJson (make x) := by
  refine ⟨?_, fun room hroom => ?_⟩
  · rw [hjson]
    exact .obj (by simpa using hx.plain)
  · rw [hjson] at hroom ⊢
    obtain ⟨r, rfl, hdepth⟩ := depth_obj_le hroom
    rw [hstep, hx.read r (by simpa using hdepth), Option.map_some]

/-- A value with no other value in it is read in any number of steps. -/
lemma recovers_leaf {α : Type} {reader : Reader α} {writer : α → Json} {x : α} {key : String}
    (make : α → AnnotValue) (hx : Recovers reader writer x)
    (hjson : (make x).toJson = .obj [(key, writer x)])
    (hstep : ∀ steps room value, annotValueWithin (steps + 1) (room + 1) (.obj [(key, value)]) =
      (reader room value).map make) :
    ∀ steps, (make x).toJson.depth ≤ steps →
      Recovers (annotValueWithin steps) AnnotValue.toJson (make x) := by
  intro steps hsteps
  rw [hjson] at hsteps
  obtain ⟨steps, rfl, -⟩ := depth_obj_le hsteps
  exact recovers_keyed make hx hjson (hstep steps)

/-- An enumeration constant, as a pair of names. -/
lemma recovers_constant (constant : String × String) :
    Recovers (fun room value => do
        let f ← fields ["enum_type", "name"] room value
        return (← f.required "enum_type" text, ← f.required "name" text))
      (fun constant => .obj [("enum_type", .str constant.1), ("name", .str constant.2)])
      constant := by
  refine recovers_record rfl (by decide) ?_ fun f hf => ?_
  · simp [Plain.str]
  · refine bind_eq_some ((recovers_text _).required hf rfl) ?_
    exact bind_eq_some ((recovers_text _).required hf rfl) rfl

/-- A property value is read in as many steps as there are containers in it. -/
lemma recovers_annotValueWithin {v : AnnotValue} (h : v.Exact) :
    ∀ steps, v.toJson.depth ≤ steps →
      Recovers (annotValueWithin steps) AnnotValue.toJson v := by
  induction h with
  | boolean value => exact recovers_leaf .boolean (recovers_flag value) rfl fun _ _ _ => rfl
  | byte hlow hhigh =>
      have hvalue := recovers_integer hlow hhigh (by decide) (by decide)
      exact recovers_leaf .byte hvalue rfl fun _ _ _ => rfl
  | char value => exact recovers_leaf .char (recovers_character value) rfl fun _ _ _ => rfl
  | short hlow hhigh =>
      have hvalue := recovers_integer hlow hhigh (by decide) (by decide)
      exact recovers_leaf .short hvalue rfl fun _ _ _ => rfl
  | int hlow hhigh =>
      have hvalue := recovers_integer hlow hhigh (by decide) (by decide)
      exact recovers_leaf .int hvalue rfl fun _ _ _ => rfl
  | long hlow hhigh =>
      have hvalue := recovers_integer hlow hhigh (by decide) (by decide)
      exact recovers_leaf .long hvalue rfl fun _ _ _ => rfl
  | string value => exact recovers_leaf .string (recovers_text value) rfl fun _ _ _ => rfl
  | cls typeName => exact recovers_leaf .cls (recovers_text typeName) rfl fun _ _ _ => rfl
  | enumConstant enumType name =>
      refine recovers_leaf (fun c => .enumConstant c.1 c.2) (recovers_constant (enumType, name))
        rfl fun _ _ _ => ?_
      simp only [Option.bind_eq_bind, Option.map_bind, Function.comp_def]
      rfl
  | @nested type properties hsorted hvalues ih =>
      intro steps hsteps
      rw [AnnotValue.toJson] at hsteps
      obtain ⟨steps, rfl, hdepth⟩ := depth_obj_le hsteps
      have hannot :
          Recovers (annotOf (annotValueWithin steps)) Annot.toJson ⟨type, properties⟩ := by
        refine recovers_annotOf hsorted fun property hproperty => ih property hproperty steps ?_
        have hentry : (property.1, property.2.toJson) ∈
            AnnotValue.propertiesToJson properties := by
          rw [AnnotValue.propertiesToJson_eq]
          exact List.mem_map_of_mem hproperty
        have hproperties : ("properties", Json.obj (AnnotValue.propertiesToJson properties)) ∈
            [("annotation_type", .str type),
              ("properties", .obj (AnnotValue.propertiesToJson properties))] := by
          simp
        calc property.2.toJson.depth
            ≤ (Json.obj (AnnotValue.propertiesToJson properties)).depth := (depth_lt_obj hentry).le
          _ ≤ (Annot.toJson ⟨type, properties⟩).depth := (depth_lt_obj hproperties).le
          _ ≤ steps := hdepth _ (List.mem_cons_self ..)
      exact recovers_keyed (fun a => .nested a.type a.properties) hannot rfl fun _ _ => rfl
  | @array items hitems ih =>
      intro steps hsteps
      rw [AnnotValue.toJson, AnnotValue.listToJson_eq] at hsteps
      obtain ⟨steps, rfl, hdepth⟩ := depth_obj_le hsteps
      have hlist : ∀ item ∈ items, Recovers (annotValueWithin steps) AnnotValue.toJson item :=
        fun item hitem => ih item hitem steps
          ((depth_lt_arr (List.mem_map_of_mem hitem)).le.trans (hdepth _ (List.mem_cons_self ..)))
      have hjson : (AnnotValue.array items).toJson =
          .obj [("array", .arr (items.map AnnotValue.toJson))] := by
        rw [AnnotValue.toJson, AnnotValue.listToJson_eq]
      exact recovers_keyed .array (recovers_list hlist) hjson fun _ _ => rfl

lemma recovers_annotValue {v : AnnotValue} (h : v.Exact) :
    Recovers annotValue AnnotValue.toJson v :=
  ⟨(recovers_annotValueWithin h _ le_rfl).plain,
    fun room hroom => (recovers_annotValueWithin h room hroom).read room hroom⟩

lemma recovers_annot {a : Annot} (h : a.Exact) : Recovers annot Annot.toJson a :=
  recovers_annotOf h.sorted fun property hproperty =>
    recovers_annotValue (h.values property hproperty)

/-! ## Members -/

lemma recovers_modifiers (s : Modifiers) : Recovers modifiers Modifiers.toJson s := by
  have hlist : ∀ m ∈ s.toList, Recovers (choice (Modifier.all.map fun m => (m.text, m)))
      (fun m => .str m.text) m := by
    intro m _
    exact recovers_choice (by cases m <;> rfl)
  have hjson : s.toJson = .arr (s.toList.map fun m => .str m.text) := by
    rw [Modifiers.toJson, strs, Modifiers.texts, List.map_map]
    rfl
  refine ⟨?_, fun room hroom => ?_⟩
  · rw [hjson]
    exact (recovers_list hlist).plain
  · rw [hjson] at hroom ⊢
    rw [modifiers, (recovers_list hlist).read room hroom, Option.map_some, Modifiers.ofList_toList]

/-- A field that can be read back. -/
structure Field.Exact (f : Field) : Prop where
  annotations : ∀ a ∈ f.annotations, a.Exact

lemma recovers_field {x : Field} (h : x.Exact) : Recovers field Field.toJson x := by
  have htype := recovers_typeSig x.type
  have hmodifiers := recovers_modifiers x.modifiers
  have hannotations : ∀ a ∈ x.annotations, Recovers annot Annot.toJson a :=
    fun a ha => recovers_annot (h.annotations a ha)
  refine recovers_record rfl (by decide) ?_ fun f hf => ?_
  · simp [Plain.str, htype.plain, hmodifiers.plain, (recovers_list hannotations).plain]
  · refine bind_eq_some ((recovers_text _).required hf rfl) ?_
    refine bind_eq_some (htype.required hf rfl) ?_
    refine bind_eq_some (hmodifiers.withDefault hf rfl) ?_
    exact bind_eq_some (Recovers.listOf hannotations hf rfl) rfl

/-- A parameter that can be read back. -/
structure Param.Exact (p : Param) : Prop where
  annotations : ∀ a ∈ p.annotations, a.Exact

lemma recovers_param {p : Param} (h : p.Exact) : Recovers param Param.toJson p := by
  have htype := recovers_typeSig p.type
  have hannotations : ∀ a ∈ p.annotations, Recovers annot Annot.toJson a :=
    fun a ha => recovers_annot (h.annotations a ha)
  refine recovers_record rfl (by decide) ?_ fun f hf => ?_
  · simp [htype.plain, (recovers_list hannotations).plain]
  · refine bind_eq_some (htype.required hf rfl) ?_
    exact bind_eq_some (Recovers.listOf hannotations hf rfl) rfl

lemma recovers_fieldUse (use : FieldUse) : Recovers fieldUse (fun use => .str use.text) use :=
  recovers_choice (by cases use <;> rfl)

lemma recovers_texts (texts : List String) : ∀ s ∈ texts, Recovers text .str s :=
  fun s _ => recovers_text s

lemma recovers_fieldAccess {a : FieldAccess} (h : a.line < 2 ^ 32) :
    Recovers fieldAccess FieldAccess.toJson a := by
  have huse := recovers_fieldUse a.use
  have hline := recovers_line h
  refine recovers_record rfl (by decide) ?_ fun f hf => ?_
  · simp [Plain.str, hline.plain]
  · refine bind_eq_some ((recovers_text _).required hf rfl) ?_
    refine bind_eq_some ((recovers_text _).required hf rfl) ?_
    refine bind_eq_some ((recovers_text _).required hf rfl) ?_
    refine bind_eq_some (huse.withDefault hf rfl) ?_
    exact bind_eq_some (hline.withDefault hf rfl) rfl

lemma recovers_call {c : Call} (h : c.line < 2 ^ 32) : Recovers call Call.toJson c := by
  have hparameters := recovers_texts c.parameters
  have hline := recovers_line h
  refine recovers_record rfl (by decide) ?_ fun f hf => ?_
  · simp [Plain.str, strs, (recovers_list hparameters).plain, hline.plain]
  · refine bind_eq_some ((recovers_text _).required hf rfl) ?_
    refine bind_eq_some ((recovers_text _).required hf rfl) ?_
    refine bind_eq_some (Recovers.listOf hparameters hf rfl) ?_
    refine bind_eq_some ((recovers_text _).withDefault hf rfl) ?_
    exact bind_eq_some (hline.withDefault hf rfl) rfl

lemma recovers_catchBlock {b : CatchBlock} (h : b.line < 2 ^ 32) :
    Recovers catchBlock CatchBlock.toJson b := by
  have htypes := recovers_list (recovers_texts b.types)
  have hline := recovers_line h
  refine recovers_record rfl (by decide) ?_ fun f hf => ?_
  · simp [strs, htypes.plain, hline.plain]
  · refine bind_eq_some (htypes.required hf rfl) ?_
    exact bind_eq_some (hline.withDefault hf rfl) rfl

lemma recovers_typeUse {u : TypeUse} (h : u.line < 2 ^ 32) : Recovers typeUse TypeUse.toJson u := by
  have hline := recovers_line h
  refine recovers_record rfl (by decide) ?_ fun f hf => ?_
  · simp [Plain.str, hline.plain]
  · refine bind_eq_some ((recovers_text _).required hf rfl) ?_
    exact bind_eq_some (hline.withDefault hf rfl) rfl

/-- A code unit that can be read back. -/
structure CodeUnit.Exact (u : CodeUnit) : Prop where
  parameters : ∀ p ∈ u.parameters, p.Exact
  annotations : ∀ a ∈ u.annotations, a.Exact
  firstLine : u.firstLine < 2 ^ 32
  fieldAccesses : ∀ a ∈ u.fieldAccesses, a.line < 2 ^ 32
  methodCalls : ∀ c ∈ u.methodCalls, c.line < 2 ^ 32
  constructorCalls : ∀ c ∈ u.constructorCalls, c.line < 2 ^ 32
  methodReferences : ∀ c ∈ u.methodReferences, c.line < 2 ^ 32
  constructorReferences : ∀ c ∈ u.constructorReferences, c.line < 2 ^ 32
  catchBlocks : ∀ b ∈ u.catchBlocks, b.line < 2 ^ 32
  instanceofChecks : ∀ t ∈ u.instanceofChecks, t.line < 2 ^ 32
  classObjects : ∀ t ∈ u.classObjects, t.line < 2 ^ 32

lemma recovers_codeUnit {u : CodeUnit} (h : u.Exact) : Recovers codeUnit CodeUnit.toJson u := by
  have hdescriptor : ∀ s ∈ u.descriptor, Recovers text .str s := fun s _ => recovers_text s
  have hmodifiers := recovers_modifiers u.modifiers
  have htypeParameters : ∀ p ∈ u.typeParameters, Recovers typeParam TypeParam.toJson p :=
    fun p _ => recovers_typeParam p
  have hparameters : ∀ p ∈ u.parameters, Recovers param Param.toJson p :=
    fun p hp => recovers_param (h.parameters p hp)
  have hreturns := recovers_typeSig u.returns
  have hthrows := recovers_texts u.throws
  have hannotations : ∀ a ∈ u.annotations, Recovers annot Annot.toJson a :=
    fun a ha => recovers_annot (h.annotations a ha)
  have hfirstLine := recovers_line h.firstLine
  have hfieldAccesses : ∀ a ∈ u.fieldAccesses, Recovers fieldAccess FieldAccess.toJson a :=
    fun a ha => recovers_fieldAccess (h.fieldAccesses a ha)
  have hmethodCalls : ∀ c ∈ u.methodCalls, Recovers call Call.toJson c :=
    fun c hc => recovers_call (h.methodCalls c hc)
  have hconstructorCalls : ∀ c ∈ u.constructorCalls, Recovers call Call.toJson c :=
    fun c hc => recovers_call (h.constructorCalls c hc)
  have hmethodReferences : ∀ c ∈ u.methodReferences, Recovers call Call.toJson c :=
    fun c hc => recovers_call (h.methodReferences c hc)
  have hconstructorReferences : ∀ c ∈ u.constructorReferences, Recovers call Call.toJson c :=
    fun c hc => recovers_call (h.constructorReferences c hc)
  have hcatchBlocks : ∀ b ∈ u.catchBlocks, Recovers catchBlock CatchBlock.toJson b :=
    fun b hb => recovers_catchBlock (h.catchBlocks b hb)
  have hinstanceofChecks : ∀ t ∈ u.instanceofChecks, Recovers typeUse TypeUse.toJson t :=
    fun t ht => recovers_typeUse (h.instanceofChecks t ht)
  have hclassObjects : ∀ t ∈ u.classObjects, Recovers typeUse TypeUse.toJson t :=
    fun t ht => recovers_typeUse (h.classObjects t ht)
  have hne : ∀ s, Json.str s ≠ .null := fun s => Json.noConfusion
  refine recovers_record rfl (by decide) ?_ fun f hf => ?_
  · simp [Plain.str, strs, optText, (recovers_optional hne hdescriptor).plain, hmodifiers.plain,
      (recovers_list htypeParameters).plain, (recovers_list hparameters).plain, hreturns.plain,
      (recovers_list hthrows).plain, (recovers_list hannotations).plain, hfirstLine.plain,
      (recovers_list hfieldAccesses).plain, (recovers_list hmethodCalls).plain,
      (recovers_list hconstructorCalls).plain, (recovers_list hmethodReferences).plain,
      (recovers_list hconstructorReferences).plain, (recovers_list hcatchBlocks).plain,
      (recovers_list hinstanceofChecks).plain, (recovers_list hclassObjects).plain]
  · refine bind_eq_some ((recovers_text _).required hf rfl) ?_
    refine bind_eq_some (Recovers.maybe hne hdescriptor hf rfl) ?_
    refine bind_eq_some (hmodifiers.withDefault hf rfl) ?_
    refine bind_eq_some (Recovers.listOf htypeParameters hf rfl) ?_
    refine bind_eq_some (Recovers.listOf hparameters hf rfl) ?_
    refine bind_eq_some (hreturns.withDefault hf rfl) ?_
    refine bind_eq_some (Recovers.listOf hthrows hf rfl) ?_
    refine bind_eq_some (Recovers.listOf hannotations hf rfl) ?_
    refine bind_eq_some (hfirstLine.withDefault hf rfl) ?_
    refine bind_eq_some (Recovers.listOf hfieldAccesses hf rfl) ?_
    refine bind_eq_some (Recovers.listOf hmethodCalls hf rfl) ?_
    refine bind_eq_some (Recovers.listOf hconstructorCalls hf rfl) ?_
    refine bind_eq_some (Recovers.listOf hmethodReferences hf rfl) ?_
    refine bind_eq_some (Recovers.listOf hconstructorReferences hf rfl) ?_
    refine bind_eq_some (Recovers.listOf hcatchBlocks hf rfl) ?_
    refine bind_eq_some (Recovers.listOf hinstanceofChecks hf rfl) ?_
    exact bind_eq_some (Recovers.listOf hclassObjects hf rfl) rfl

/-! ## Classes -/

lemma recovers_origin (o : Origin) : Recovers origin Origin.toJson o := by
  have hfileName : ∀ s ∈ o.fileName, Recovers text .str s := fun s _ => recovers_text s
  have hne : ∀ s, Json.str s ≠ .null := fun s => Json.noConfusion
  refine recovers_record rfl (by decide) ?_ fun f hf => ?_
  · simp [Plain.str, optText, (recovers_optional hne hfileName).plain]
  · refine bind_eq_some ((recovers_text _).required hf rfl) ?_
    exact bind_eq_some (Recovers.maybe hne hfileName hf rfl) rfl

lemma recovers_classKind (kind : ClassKind) :
    Recovers classKind (fun kind => .str kind.text) kind :=
  recovers_choice (by cases kind <;> rfl)

/-- A class that can be read back. -/
structure Class.Exact (c : Class) : Prop where
  annotations : ∀ a ∈ c.annotations, a.Exact
  fields : ∀ f ∈ c.fields, f.Exact
  codeUnits : ∀ u ∈ c.codeUnits, u.Exact

lemma recovers_cls {c : Class} (h : c.Exact) : Recovers cls Class.toJson c := by
  have hkind := recovers_classKind c.kind
  have hmodifiers := recovers_modifiers c.modifiers
  have hsuperclass : ∀ sig ∈ c.superclass, Recovers typeSig TypeSig.toJson sig :=
    fun sig _ => recovers_typeSig sig
  have hinterfaces : ∀ sig ∈ c.interfaces, Recovers typeSig TypeSig.toJson sig :=
    fun sig _ => recovers_typeSig sig
  have htypeParameters : ∀ p ∈ c.typeParameters, Recovers typeParam TypeParam.toJson p :=
    fun p _ => recovers_typeParam p
  have henclosing : ∀ s ∈ c.enclosingClass, Recovers text .str s := fun s _ => recovers_text s
  have hsource : ∀ o ∈ c.source, Recovers origin Origin.toJson o := fun o _ => recovers_origin o
  have hannotations : ∀ a ∈ c.annotations, Recovers annot Annot.toJson a :=
    fun a ha => recovers_annot (h.annotations a ha)
  have hfields : ∀ x ∈ c.fields, Recovers field Field.toJson x :=
    fun x hx => recovers_field (h.fields x hx)
  have hmethods : ∀ u ∈ c.methods, Recovers codeUnit CodeUnit.toJson u :=
    fun u hu => recovers_codeUnit (h.codeUnits u (by simp [Class.codeUnits, hu]))
  have hconstructors : ∀ u ∈ c.constructors, Recovers codeUnit CodeUnit.toJson u :=
    fun u hu => recovers_codeUnit (h.codeUnits u (by simp [Class.codeUnits, hu]))
  have hstatic : ∀ u ∈ c.staticInitializer, Recovers codeUnit CodeUnit.toJson u :=
    fun u hu => recovers_codeUnit (h.codeUnits u (by simp [Class.codeUnits, Option.mem_def.mp hu]))
  have hne : ∀ s, Json.str s ≠ .null := fun s => Json.noConfusion
  have hsourceNe : ∀ o : Origin, o.toJson ≠ .null := fun o => Json.noConfusion
  have hstaticNe : ∀ u : CodeUnit, u.toJson ≠ .null := fun u => Json.noConfusion
  refine recovers_record rfl (by decide) ?_ fun f hf => ?_
  · simp [Plain.str, optText, hmodifiers.plain,
      (recovers_optional TypeSig.toJson_ne_null hsuperclass).plain,
      (recovers_list hinterfaces).plain, (recovers_list htypeParameters).plain,
      (recovers_optional hne henclosing).plain, (recovers_optional hsourceNe hsource).plain,
      (recovers_list hannotations).plain, (recovers_list hfields).plain,
      (recovers_list hmethods).plain, (recovers_list hconstructors).plain,
      (recovers_optional hstaticNe hstatic).plain]
  · refine bind_eq_some ((recovers_text _).required hf rfl) ?_
    refine bind_eq_some (hkind.withDefault hf rfl) ?_
    refine bind_eq_some (hmodifiers.withDefault hf rfl) ?_
    refine bind_eq_some (Recovers.maybe TypeSig.toJson_ne_null hsuperclass hf rfl) ?_
    refine bind_eq_some (Recovers.listOf hinterfaces hf rfl) ?_
    refine bind_eq_some (Recovers.listOf htypeParameters hf rfl) ?_
    refine bind_eq_some (Recovers.maybe hne henclosing hf rfl) ?_
    refine bind_eq_some (Recovers.maybe hsourceNe hsource hf rfl) ?_
    refine bind_eq_some (Recovers.listOf hannotations hf rfl) ?_
    refine bind_eq_some (Recovers.listOf hfields hf rfl) ?_
    refine bind_eq_some (Recovers.listOf hmethods hf rfl) ?_
    refine bind_eq_some (Recovers.listOf hconstructors hf rfl) ?_
    exact bind_eq_some (Recovers.maybe hstaticNe hstatic hf rfl) rfl

end Record

/-! ## Batches -/

namespace Batch

/-- A batch that can be read back: the numbers in it are in the range of their types, the properties
of annotations are in ascending order, and no property value is a fraction. -/
def Exact (b : Batch) : Prop :=
  ∀ c ∈ b.classes, c.Exact

lemma recovers_read {b : Batch} (h : b.Exact) : Recovers read toJson b := by
  have hclasses : ∀ c ∈ b.classes, Recovers Record.cls Record.Class.toJson c :=
    fun c hc => Record.recovers_cls (h c hc)
  refine recovers_record rfl (by decide) ?_ fun f hf => ?_
  · simp [(recovers_list hclasses).plain]
  · exact bind_eq_some (Recovers.listOf hclasses hf rfl) rfl

/-- **A batch is read as it was written**, in both layouts, if no more containers are nested in it
than a text may have. -/
theorem ofText?_toJson {b : Batch} (h : b.Exact) (hdepth : b.toJson.depth ≤ depthLimit) :
    ∀ text ∈ [b.toJson.compact, b.toJson.pretty],
      ∃ b', ofText? text = some b' ∧ b'.classes = b.classes ∧
        ∀ name, b'.record? name = b.record? name := by
  have hb := recovers_read h
  have hvalue : ofJson? b.toJson = some b := hb.read depthLimit hdepth
  intro text htext
  refine ⟨b, ?_, rfl, fun _ => rfl⟩
  simp only [List.mem_cons, List.not_mem_nil, or_false] at htext
  rcases htext with rfl | rfl
  · exact bind_eq_some (parse?_compact hb.plain) hvalue
  · exact bind_eq_some (parse?_pretty hb.plain) hvalue

/-- A nested annotation with values at the ends of their ranges. -/
def sampleValue : Record.AnnotValue :=
  .nested "p.Shape" [("corners", .array [.byte (-128), .int 2147483647, .char '"']),
    ("kind", .enumConstant "p.Kind" "OPEN"), ("label", .string "\t\\")]

/-- A generic method with an annotated parameter. -/
def sampleUnit : Record.CodeUnit where
  name := "draw"
  modifiers := .ofList [.publicAccess, .final]
  typeParameters := [⟨"T", [.parameterized "p.Box" [.wildcard [.variable "T"] []]]⟩]
  parameters := [⟨.genericArray (.variable "T"), [⟨"p.Styled", [("shape", sampleValue)]⟩]⟩]
  firstLine := 4294967295
  methodCalls := [{ owner := "p.Box", name := "open", line := 7 }]

/-- Two records of one name. -/
def sampleBatch : Batch :=
  ⟨[{ name := "p.A", interfaces := [.cls "p.I"], methods := [sampleUnit]
      source := some ⟨"file:///p/A.class", none⟩ }, { name := "p.A", kind := .record }]⟩

lemma sampleValue_exact : sampleValue.Exact := by
  refine .nested _ (by decide) ?_
  simp only [List.forall_mem_cons]
  refine ⟨.array ?_, .enumConstant _ _, .string _, nofun⟩
  simp only [List.forall_mem_cons]
  exact ⟨.byte (by decide) (by decide), .int (by decide) (by decide), .char _, nofun⟩

lemma sampleUnit_exact : sampleUnit.Exact := by
  refine ⟨?_, nofun, by decide, nofun, by decide, nofun, nofun, nofun, nofun, nofun, nofun⟩
  simp only [sampleUnit, List.forall_mem_cons]
  refine ⟨⟨?_⟩, nofun⟩
  simp only [List.forall_mem_cons]
  refine ⟨⟨by decide, ?_⟩, nofun⟩
  simp only [List.forall_mem_cons]
  exact ⟨sampleValue_exact, nofun⟩

lemma sampleBatch_exact : sampleBatch.Exact := by
  simp only [Batch.Exact, sampleBatch, List.forall_mem_cons]
  refine ⟨⟨nofun, nofun, ?_⟩, ⟨nofun, nofun, nofun⟩, nofun⟩
  simpa [Record.Class.codeUnits] using sampleUnit_exact

theorem ofText?_toJson_sampleBatch :
    sampleBatch.Exact ∧ sampleBatch.toJson.depth = 16 ∧
      ∀ text ∈ [sampleBatch.toJson.compact, sampleBatch.toJson.pretty],
        ∃ b', ofText? text = some b' ∧ b'.classes = sampleBatch.classes ∧
          ∀ name, b'.record? name = sampleBatch.record? name := by
  have hdepth : sampleBatch.toJson.depth = 16 := by decide
  exact ⟨sampleBatch_exact, hdepth, ofText?_toJson sampleBatch_exact (by rw [hdepth]; decide)⟩

end Batch

end ClassAtlas
