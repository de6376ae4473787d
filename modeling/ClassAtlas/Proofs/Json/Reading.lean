import ClassAtlas.Json.Reader
import ClassAtlas.Proofs.Json.Text

/-!
# Reading what was written

A reader is given the room for nested containers.  It gets back what was written whenever the value
fits into the room, and it does so for a list or a record if it does for the parts.

* `depth` — how many containers are nested in a value.
* `Recovers` — a reader gets back what a writer has written, and that is plain.
* `recovers_list`, `recovers_optional`, `recovers_choice` — it does so for what is made of parts.
* `recovers_record` — it does so for a record that is written with all its fields.
-/

namespace ClassAtlas.Json

/-! ## Depth -/

mutual

/-- The number of containers that are nested in each other. -/
def depth : Json → ℕ
  | .arr items => itemsDepth items + 1
  | .obj entries => entriesDepth entries + 1
  | _ => 0

def itemsDepth : List Json → ℕ
  | [] => 0
  | item :: items => max item.depth (itemsDepth items)

def entriesDepth : List (String × Json) → ℕ
  | [] => 0
  | (_, value) :: entries => max value.depth (entriesDepth entries)

end

lemma itemsDepth_le {items : List Json} {room : ℕ} :
    itemsDepth items ≤ room ↔ ∀ item ∈ items, item.depth ≤ room := by
  induction items with
  | nil => simp [itemsDepth]
  | cons item items ih => simp [itemsDepth, ih]

lemma entriesDepth_le {entries : List (String × Json)} {room : ℕ} :
    entriesDepth entries ≤ room ↔ ∀ entry ∈ entries, entry.2.depth ≤ room := by
  induction entries with
  | nil => simp [entriesDepth]
  | cons entry entries ih => simp [entriesDepth, ih]

lemma depth_arr_le {items : List Json} {room : ℕ} (h : (Json.arr items).depth ≤ room) :
    ∃ r, room = r + 1 ∧ ∀ item ∈ items, item.depth ≤ r := by
  rw [depth] at h
  cases room with
  | zero => omega
  | succ r => exact ⟨r, rfl, itemsDepth_le.mp (by omega)⟩

lemma depth_obj_le {entries : List (String × Json)} {room : ℕ}
    (h : (Json.obj entries).depth ≤ room) :
    ∃ r, room = r + 1 ∧ ∀ entry ∈ entries, entry.2.depth ≤ r := by
  rw [depth] at h
  cases room with
  | zero => omega
  | succ r => exact ⟨r, rfl, entriesDepth_le.mp (by omega)⟩

lemma depth_lt_arr {items : List Json} {item : Json} (h : item ∈ items) :
    item.depth < (Json.arr items).depth := by
  rw [depth, Nat.lt_succ_iff]
  exact itemsDepth_le.mp le_rfl item h

lemma depth_lt_obj {entries : List (String × Json)} {entry : String × Json} (h : entry ∈ entries) :
    entry.2.depth < (Json.obj entries).depth := by
  rw [depth, Nat.lt_succ_iff]
  exact entriesDepth_le.mp le_rfl entry h

/-! ## Recovering -/

/-- A reader gets back what was written, if there is room for it. -/
structure Recovers {α : Type} (reader : Reader α) (writer : α → Json) (x : α) : Prop where
  plain : (writer x).Plain
  read : ∀ room, (writer x).depth ≤ room → reader room (writer x) = some x

section

variable {α : Type} {reader : Reader α} {writer : α → Json}

lemma recovers_text (s : String) : Recovers text .str s :=
  ⟨.str s, fun _ _ => rfl⟩

lemma recovers_flag (b : Bool) : Recovers flag .bool b :=
  ⟨.bool b, fun _ _ => rfl⟩

lemma recovers_character (c : Char) : Recovers character (fun c => .str (String.singleton c)) c :=
  ⟨.str _, fun _ _ => by simp [character]⟩

lemma toInt?_ofInt {n : Int} (hlow : -2 ^ 63 ≤ n) (hhigh : n < 2 ^ 64) :
    (Number.ofInt n).toInt? = some n := by
  have hplain : (Number.ofInt n).isPlain = true := rfl
  have hwhole : (Number.ofInt n).whole = n.natAbs := rfl
  rw [Number.toInt?, if_pos hplain, hwhole, Nat.pow_eq, Nat.pow_eq]
  rcases lt_or_ge n 0 with hneg | hneg
  · have hnegative : (Number.ofInt n).negative = true := decide_eq_true hneg
    have hfits : 0 < n.natAbs ∧ n.natAbs ≤ 2 ^ 63 := by omega
    rw [if_pos hnegative, if_pos (by simpa using hfits), Option.some_inj]
    omega
  · have hnegative : (Number.ofInt n).negative = false := decide_eq_false (not_lt.mpr hneg)
    have hfits : n.natAbs < 2 ^ 64 := by omega
    rw [if_neg (by simp [hnegative]), if_pos hfits, Option.some_inj]
    omega

lemma recovers_integer {low high n : Int} (hlow : low ≤ n) (hhigh : n ≤ high)
    (hmin : -2 ^ 63 ≤ low) (hmax : high < 2 ^ 64) : Recovers (integer low high) .int n := by
  refine ⟨.int n, fun room _ => ?_⟩
  simp [integer, Json.int, toInt?_ofInt (hmin.trans hlow) (lt_of_le_of_lt hhigh hmax), hlow, hhigh]

lemma line_num (room : ℕ) (n : Number) :
    line room (.num n) = n.toInt?.bind fun value =>
      if 0 ≤ value ∧ value < Nat.pow 2 32 then some value.toNat else none := rfl

lemma recovers_line {n : ℕ} (h : n < 2 ^ 32) : Recovers line .nat n := by
  refine ⟨.int n, fun room _ => ?_⟩
  have hvalue : (Number.ofInt n).toInt? = some (n : Int) := toInt?_ofInt (by omega) (by omega)
  have hbounds : 0 ≤ (n : Int) ∧ (n : Int) < Nat.pow 2 32 := by
    rw [Nat.pow_eq]
    omega
  rw [Json.nat, line_num, hvalue, Option.bind_some, if_pos hbounds, Int.toNat_natCast]

lemma recovers_list {xs : List α} (h : ∀ x ∈ xs, Recovers reader writer x) :
    Recovers (list reader) (fun xs => .arr (xs.map writer)) xs := by
  refine ⟨.arr fun item hitem => ?_, fun room hroom => ?_⟩
  · obtain ⟨x, hx, rfl⟩ := List.mem_map.mp hitem
    exact (h x hx).plain
  · obtain ⟨r, rfl, hdepth⟩ := depth_arr_le hroom
    rw [list]
    clear hroom
    induction xs with
    | nil => rfl
    | cons x xs ih =>
        have hx := (h x (List.mem_cons_self ..)).read r (hdepth _ (List.mem_cons_self ..))
        have ih := ih (fun y hy => h y (List.mem_cons_of_mem _ hy))
          fun item hitem => hdepth item (List.mem_cons_of_mem _ hitem)
        simp [hx, ih]

lemma recovers_optional {x : Option α} (hne : ∀ y, writer y ≠ .null)
    (h : ∀ y ∈ x, Recovers reader writer y) :
    Recovers (optional reader) (fun x => .opt (x.map writer)) x := by
  cases x with
  | none => exact ⟨.null, fun _ _ => rfl⟩
  | some y =>
      obtain ⟨hplain, hread⟩ := h y rfl
      refine ⟨hplain, fun room hroom => ?_⟩
      have hy : optional reader room (writer y) = (reader room (writer y)).map some := by
        unfold optional
        split
        · exact absurd ‹_› (hne y)
        · rfl
      exact hy.trans (by rw [hread room hroom]; rfl)

lemma recovers_choice {options : List (String × α)} {name : α → String} {x : α}
    (h : options.lookup (name x) = some x) : Recovers (choice options) (fun x => .str (name x)) x :=
  ⟨.str _, fun _ _ => h⟩

end

/-! ## Records -/

/-- The fields that were written for a record, each of which fits into the room. -/
structure Fields.Holds (f : Fields) (entries : List (String × Json)) : Prop where
  present : f.present = entries
  fits : ∀ entry ∈ entries, entry.2.depth ≤ f.room

/-- A record with all its fields in order. -/
lemma fields_obj {names : List String} {entries : List (String × Json)}
    (hnames : entries.map Prod.fst = names) (hnodup : names.Nodup) {room : ℕ}
    (hroom : (Json.obj entries).depth ≤ room) :
    ∃ f, fields names room (.obj entries) = some f ∧ f.Holds entries := by
  obtain ⟨r, rfl, hdepth⟩ := depth_obj_le hroom
  have hknown : entries.filter (fun entry => names.contains entry.1) = entries := by
    refine List.filter_eq_self.mpr fun entry hentry => ?_
    rw [List.contains_iff_mem, ← hnames]
    exact List.mem_map_of_mem hentry
  exact ⟨⟨r, entries⟩, by simp only [fields, hknown, hnames, if_pos hnodup], rfl, hdepth⟩

section

variable {α : Type} {reader : Reader α} {writer : α → Json} {f : Fields}
  {entries : List (String × Json)} {name : String}

lemma Fields.Holds.depth_le {value : Json} (h : f.Holds entries)
    (hlookup : entries.lookup name = some value) : value.depth ≤ f.room := by
  obtain ⟨l₁, l₂, hentries, -⟩ := List.lookup_eq_some_iff.mp hlookup
  exact h.fits (name, value) (by simp [hentries])

lemma Fields.Holds.withDefault {value : Json} {x default : α} (h : f.Holds entries)
    (hlookup : entries.lookup name = some value)
    (hread : value.depth ≤ f.room → reader f.room value = some x) :
    f.withDefault name default reader = some x := by
  simp only [Fields.withDefault, h.present, hlookup]
  exact hread (h.depth_le hlookup)

lemma Recovers.required {x : α} (hx : Recovers reader writer x) (h : f.Holds entries)
    (hlookup : entries.lookup name = some (writer x)) : f.required name reader = some x := by
  simp only [Fields.required, h.present, hlookup, Option.bind_eq_bind, Option.bind_some]
  exact hx.read f.room (h.depth_le hlookup)

lemma Recovers.withDefault {x default : α} (hx : Recovers reader writer x) (h : f.Holds entries)
    (hlookup : entries.lookup name = some (writer x)) :
    f.withDefault name default reader = some x :=
  h.withDefault hlookup (hx.read f.room)

lemma Recovers.listOf {xs : List α} (hxs : ∀ x ∈ xs, Recovers reader writer x)
    (h : f.Holds entries) (hlookup : entries.lookup name = some (.arr (xs.map writer))) :
    f.listOf name reader = some xs :=
  (recovers_list hxs).withDefault h hlookup

lemma Recovers.maybe {x : Option α} (hne : ∀ y, writer y ≠ .null)
    (hx : ∀ y ∈ x, Recovers reader writer y) (h : f.Holds entries)
    (hlookup : entries.lookup name = some (.opt (x.map writer))) :
    f.maybe name reader = some x :=
  (recovers_optional hne hx).withDefault h hlookup

lemma bind_eq_some {β : Type} {a : Option α} {x : α} {next : α → Option β} {y : β}
    (ha : a = some x) (hnext : next x = some y) : (a >>= next) = some y := by
  rw [ha]
  exact hnext

/-- A record is recovered if its fields are, each of which is found under its name. -/
lemma recovers_record {names : List String} {fieldsOf : α → List (String × Json)}
    {assemble : Fields → Option α} {x : α} (hnames : (fieldsOf x).map Prod.fst = names)
    (hnodup : names.Nodup) (hplain : ∀ entry ∈ fieldsOf x, entry.2.Plain)
    (hread : ∀ f : Fields, f.Holds (fieldsOf x) → assemble f = some x) :
    Recovers (fun room value => fields names room value >>= assemble)
      (fun x => .obj (fieldsOf x)) x := by
  refine ⟨.obj hplain, fun room hroom => ?_⟩
  obtain ⟨f, hfields, hf⟩ := fields_obj hnames hnodup hroom
  exact bind_eq_some hfields (hread f hf)

end

end ClassAtlas.Json
