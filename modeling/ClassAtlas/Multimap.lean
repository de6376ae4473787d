import Std.Data.HashMap

/-!
# Multimaps

Maps that keep every value that was inserted for a key, in the order of insertion.

* `Multimap.insert`, `Multimap.insertAll` — adding values.
* `Multimap.mapLists` — changing the values of every key.
* `Multimap.lookup` — the values of a key.
* `Multimap.lookup_insertAll` — these are the values that were inserted for the key.
-/

namespace ClassAtlas

/-- A map from keys to the values that were inserted for them. -/
structure Multimap (κ υ : Type) [DecidableEq κ] [Hashable κ] where
  buckets : Std.HashMap κ (Array υ) := ∅

namespace Multimap

variable {κ υ : Type} [DecidableEq κ] [Hashable κ]

instance : EmptyCollection (Multimap κ υ) :=
  ⟨{}⟩

/-- Adds a value behind those that the key already has. -/
def insert (m : Multimap κ υ) (key : κ) (value : υ) : Multimap κ υ :=
  ⟨m.buckets.alter key fun values => some ((values.getD #[]).push value)⟩

/-- Adds values one after the other. -/
def insertAll (m : Multimap κ υ) (entries : List (κ × υ)) : Multimap κ υ :=
  entries.foldl (fun m (key, value) => m.insert key value) m

/-- Changes the values of every key. -/
def mapLists (m : Multimap κ υ) (f : List υ → List υ) : Multimap κ υ :=
  ⟨m.buckets.map fun _ values => (f values.toList).toArray⟩

/-- The values of a key, in the order of insertion. -/
def lookup (m : Multimap κ υ) (key : κ) : List υ :=
  (m.buckets.getD key #[]).toList

@[simp] theorem lookup_empty (key : κ) : (∅ : Multimap κ υ).lookup key = [] := by
  change (Std.HashMap.getD ∅ key #[]).toList = []
  rw [Std.HashMap.getD_empty]

@[simp] theorem insertAll_nil (m : Multimap κ υ) : m.insertAll [] = m :=
  rfl

theorem insertAll_append (m : Multimap κ υ) (entries entries' : List (κ × υ)) :
    m.insertAll (entries ++ entries') = (m.insertAll entries).insertAll entries' :=
  List.foldl_append

theorem lookup_insert (m : Multimap κ υ) (key k : κ) (value : υ) :
    (m.insert key value).lookup k = m.lookup k ++ if key = k then [value] else [] := by
  rw [lookup, insert, Std.HashMap.getD_alter]
  by_cases h : key = k
  · simp [lookup, h, Std.HashMap.getD_eq_getD_getElem?]
  · simp [lookup, h]

/-- The values of a key are those that were inserted for it. -/
theorem lookup_insertAll (m : Multimap κ υ) (entries : List (κ × υ)) (k : κ) :
    (m.insertAll entries).lookup k =
      m.lookup k ++ (entries.filter fun e => e.1 = k).map Prod.snd := by
  induction entries generalizing m with
  | nil => simp
  | cons e entries ih =>
    change ((m.insert e.1 e.2).insertAll entries).lookup k = _
    rw [ih, lookup_insert, List.append_assoc]
    by_cases h : e.1 = k <;> simp [h]

/-- A key without values has none after the change. -/
theorem lookup_mapLists (m : Multimap κ υ) {f : List υ → List υ} (hf : f [] = []) (k : κ) :
    (m.mapLists f).lookup k = f (m.lookup k) := by
  rw [lookup, lookup, mapLists, Std.HashMap.getD_eq_getD_getElem?, Std.HashMap.getElem?_map,
    Std.HashMap.getD_eq_getD_getElem?]
  cases m.buckets[k]? <;> simp [hf]

end Multimap

end ClassAtlas
