import ClassAtlas.Proofs.Linker.Erasures
import ClassAtlas.Proofs.Search.Chains

/-!
# Scopes by name and by class

The type parameters that are in scope in a class can be read off the records of a batch, and off the
linked classes.  Both are found by going from class to enclosing class.

* `Batch.Orderly` — the batches for which code units are found again by their keys.
* `Scoped` — the scopes of the classes of a batch are linked.
* `Scoped.aligned` — **the variables of a linked class are the type parameters in its scope**.
-/

namespace ClassAtlas

namespace Batch

variable {b : Batch}

/-- All names are in binary form and those of classes differ; type parameters are bounded by
classes, parameterized types or type variables; no class encloses itself, directly or not; and the
code units of a class differ in name or descriptor. -/
structure Orderly (b : Batch) : Prop where
  canonical : ∀ n ∈ b.names, Canonical n
  distinct : (b.classes.map (·.name)).Nodup
  bounds : ∀ r ∈ b.classes, ∀ p ∈ r.typeParameters ++ r.codeUnits.flatMap (·.typeParameters),
    ∀ bound ∈ p.bounds, bound.IsBound
  acyclic : ∀ n, ¬ Relation.TransGen (fun n e => e ∈ b.enclosing n) n n
  keys : ∀ r ∈ b.classes,
    (r.codeUnits.map fun u => (u.name, u.descriptorIn (b.scopes r.name))).Nodup

lemma Orderly.canonical_of_mem (h : b.Orderly) {r : Record.Class} (hr : r ∈ b.classes) {n : String}
    (hn : n ∈ r.names) : Canonical n :=
  h.canonical n (List.mem_flatMap_of_mem hr hn)

lemma Orderly.plain (h : b.Orderly) {r : Record.Class} (hr : r ∈ b.classes) {p : TypeParam}
    (hp : p ∈ r.typeParameters ++ r.codeUnits.flatMap (·.typeParameters)) : p.Plain := by
  refine fun bound hbound => ⟨h.bounds r hr p hp bound hbound, fun n hn => ?_⟩
  have hnames : n ∈ p.names := TypeSig.mem_namesIn.mpr ⟨bound, hbound, hn⟩
  refine h.canonical_of_mem hr ?_
  rcases List.mem_append.mp hp with hp | hp
  · have hmem : n ∈ r.typeParameters.flatMap TypeParam.names := List.mem_flatMap_of_mem hp hnames
    simp only [Record.Class.names, List.mem_append, hmem]
    tauto
  · obtain ⟨u, hu, hp⟩ := List.mem_flatMap.mp hp
    refine Record.Class.mem_names_of_codeUnit hu ?_
    simp only [Record.CodeUnit.names, List.mem_append, List.mem_flatMap_of_mem hp hnames, true_or]

/-- A record is found by its name. -/
lemma Orderly.record?_eq (h : b.Orderly) {r : Record.Class} (hr : r ∈ b.classes) :
    b.record? r.name = some r :=
  record?_of_mem h.distinct hr

/-- A batch is orderly if its names are those of classes and primitive types, and an enclosing class
has the shorter name. -/
lemma orderly_of_plain
    (hplain : ∀ n ∈ b.names, (Descriptor.object n).Proper ∨ (Primitive.ofKeyword? n).isSome)
    (hdistinct : (b.classes.map (·.name)).Nodup)
    (hbounds : ∀ r ∈ b.classes, ∀ p ∈ r.typeParameters ++ r.codeUnits.flatMap (·.typeParameters),
      ∀ bound ∈ p.bounds, bound.IsBound)
    (hshorter : ∀ r ∈ b.classes, ∀ e ∈ r.enclosingClass, e.length < r.name.length)
    (hkeys : ∀ r ∈ b.classes,
      (r.codeUnits.map fun u => (u.name, u.descriptorIn (b.scopes r.name))).Nodup) : b.Orderly := by
  have hstep : ∀ n e, e ∈ b.enclosing n → e.length < n.length := by
    intro n e he
    obtain ⟨r, hr, hmem⟩ := Option.bind_eq_some_iff.mp (Option.mem_toList.mp he)
    obtain ⟨hrecord, rfl⟩ := record?_mem hr
    exact hshorter r hrecord e hmem
  refine ⟨fun n hn => canonical_of_plain (hplain n hn), hdistinct, hbounds,
    fun n hback => ?_, hkeys⟩
  have hlt : ∀ {e}, Relation.TransGen (fun n e => e ∈ b.enclosing n) n e → e.length < n.length := by
    intro e hreaches
    induction hreaches with
    | single h => exact hstep _ _ h
    | tail _ h ih => exact (hstep _ _ h).trans ih
  exact absurd (hlt hback) (lt_irrefl _)

/-! ## Enclosing classes by name -/

lemma enclosing_of_record? {n : String} {r : Record.Class} (h : b.record? n = some r) :
    b.enclosing n = r.enclosingClass.toList := by
  rw [enclosing, h]
  rfl

/-- Only classes on record are enclosed by others. -/
lemma enclosing_live (b : Batch) (n : String) (h : b.enclosing n ≠ []) :
    n ∈ (b.classes.map (·.name)).toFinset := by
  rcases hr : b.record? n with _ | r
  · rw [enclosing, hr] at h
    exact absurd rfl h
  · obtain ⟨hmem, rfl⟩ := record?_mem hr
    exact List.mem_toFinset.mpr (List.mem_map_of_mem hmem)

/-- A class that nothing encloses. -/
lemma scopes_of_nil {n : String} (h : b.enclosing n = []) :
    b.scopes n = ((b.record? n).map (·.typeParameters)).toList := by
  rw [scopes, Search.depthFirst_of_nil h]
  rcases hr : b.record? n with _ | r <;> simp [hr]

/-- The search from a class that another one encloses. -/
lemma depthFirst_enclosing
    (hacyclic : ∀ n, ¬ Relation.TransGen (fun n e => e ∈ b.enclosing n) n n) {n e : String}
    (h : b.enclosing n = [e]) :
    Search.depthFirst b.enclosing b.size n = n :: Search.depthFirst b.enclosing b.size e := by
  refine Search.depthFirst_of_single b.enclosing_live ?_ h fun hback => ?_
  · exact (List.toFinset_card_le _).trans_eq (List.length_map _)
  · exact hacyclic n (.head' (by simp [h]) hback)

/-- A class that another one encloses. -/
lemma scopes_of_single
    (hacyclic : ∀ n, ¬ Relation.TransGen (fun n e => e ∈ b.enclosing n) n n) {n e : String}
    {r : Record.Class} (hr : b.record? n = some r) (he : r.enclosingClass = some e) :
    b.scopes n = r.typeParameters :: b.scopes e := by
  have hsingle : b.enclosing n = [e] := by
    rw [enclosing_of_record? hr, he]
    rfl
  rw [scopes, depthFirst_enclosing hacyclic hsingle, List.filterMap_cons, hr]
  rfl

end Batch

namespace Linker

variable {b : Batch} {t : Linker} {c e : ClassId}

/-! ## Enclosing classes of an atlas -/

/-- The scopes of the classes of a batch are linked, and other classes have none. -/
structure Scoped (b : Batch) (t : Linker) : Prop where
  orderly : b.Orderly
  erasable : Erasable t
  context : t.context = b.context
  imported : ∀ r ∈ b.classes,
    ∃ c, t.atlas.names.get? r.name = some c ∧ (t.atlas.cls c).imported = true
  scope : ∀ c, (t.atlas.cls c).imported = true → ClassScope t c
  stub : ∀ c, (t.atlas.cls c).imported = false →
    (t.atlas.cls c).enclosingClass = none ∧ (t.atlas.cls c).typeParameters = []

/-- What encloses a class and what it declares are what its record says. -/
structure OnRecord (t : Linker) (c : ClassId) (r : Record.Class) : Prop where
  enclosing : Option.Rel (fun n e => t.atlas.names.get? n = some e) r.enclosingClass
    (t.atlas.cls c).enclosingClass
  declared : List.Forall₂ (Declaration t { cls := c }) r.typeParameters
    (t.atlas.cls c).typeParameters

/-- A class is on record, or nothing is known of it. -/
lemma Scoped.onRecord (h : Scoped b t) (hc : c.index < t.atlas.classes.size) :
    (b.record? (t.atlas.cls c).name = none ∧ (t.atlas.cls c).enclosingClass = none ∧
      (t.atlas.cls c).typeParameters = []) ∨
    ∃ r, b.record? (t.atlas.cls c).name = some r ∧ OnRecord t c r := by
  rcases himported : (t.atlas.cls c).imported
  · refine Or.inl ⟨?_, h.stub c himported⟩
    rcases hr : b.record? (t.atlas.cls c).name with _ | r
    · rfl
    · -- a class on record is imported
      obtain ⟨hmem, hname⟩ := Batch.record?_mem hr
      obtain ⟨c', hc', himported'⟩ := h.imported r hmem
      rw [hname, h.erasable.wf.named.own c hc, Option.some_inj] at hc'
      rw [← hc', himported] at himported'
      cases himported'
  · have hscope := h.scope c himported
    have henclosing := hscope.enclosing
    have hname := hscope.name
    have hbounds := hscope.bounds
    rw [h.context] at henclosing hname hbounds
    simp only [Batch.context, Batch.ofClass] at henclosing hname hbounds
    rcases hr : b.record? (t.atlas.cls c).name with _ | r
    · rw [hr] at henclosing hname
      exact Or.inl ⟨rfl, Option.Rel.eq_none henclosing, List.forall₂_nil_left_iff.mp hname⟩
    · rw [hr] at henclosing hname hbounds
      refine Or.inr ⟨r, rfl, henclosing, forall₂_declaration hname hbounds fun p hp => ?_⟩
      exact h.orderly.plain (Batch.record?_mem hr).1 (List.mem_append_left _ hp)

/-- The class that encloses a class, by name and by class. -/
lemma Scoped.enclosing_eq (h : Scoped b t) (hc : c.index < t.atlas.classes.size) :
    b.enclosing (t.atlas.cls c).name =
      (t.atlas.cls c).enclosingClass.toList.map fun e => (t.atlas.cls e).name := by
  rcases h.onRecord hc with ⟨hr, henclosing, -⟩ | ⟨r, hr, honRecord⟩
  · rw [Batch.enclosing, hr, henclosing]
    rfl
  · rw [Batch.enclosing_of_record? hr]
    have hrel := honRecord.enclosing
    rcases hn : r.enclosingClass with _ | n
    · rw [hn] at hrel
      rw [hrel.eq_none]
      rfl
    · rw [hn] at hrel
      obtain ⟨e, he, hknown⟩ := hrel.exists_right
      have hmention : b.context.enclosingClass (t.atlas.cls c).name = some n := by
        rw [← hn]
        simp [Batch.context, hr]
      have hcanonical := h.orderly.canonical n (Batch.mem_names_of_mentions (.enclosing hmention))
      rw [he, Option.toList_some, Option.toList_some, List.map_singleton,
        h.erasable.name_eq hcanonical hknown]

lemma Scoped.lt_of_enclosing (h : Scoped b t) (hc : c.index < t.atlas.classes.size)
    (he : (t.atlas.cls c).enclosingClass = some e) : e.index < t.atlas.classes.size := by
  rcases h.onRecord hc with ⟨-, hnone, -⟩ | ⟨r, -, honRecord⟩
  · rw [hnone] at he
    cases he
  · have hrel := honRecord.enclosing
    rw [he] at hrel
    obtain ⟨n, -, hknown⟩ := hrel.exists_left
    exact h.erasable.wf.named.inRange hknown

/-- What encloses a class, directly or not, encloses it by name too. -/
lemma Scoped.reaches_names (h : Scoped b t) (hc : c.index < t.atlas.classes.size)
    (hreaches : Search.Reaches (fun c => (t.atlas.cls c).enclosingClass.toList) c e) :
    Search.Reaches b.enclosing (t.atlas.cls c).name (t.atlas.cls e).name ∧
      e.index < t.atlas.classes.size := by
  induction hreaches with
  | refl => exact ⟨.refl, hc⟩
  | @tail d e _ hstep ih =>
      obtain ⟨hnames, hd⟩ := ih
      refine ⟨hnames.tail ?_, h.lt_of_enclosing hd (Option.mem_toList.mp hstep)⟩
      rw [h.enclosing_eq hd]
      exact List.mem_map_of_mem hstep

/-- No class encloses itself. -/
lemma Scoped.not_reaches (h : Scoped b t) (hc : c.index < t.atlas.classes.size)
    (he : (t.atlas.cls c).enclosingClass = some e) :
    ¬ Search.Reaches (fun c => (t.atlas.cls c).enclosingClass.toList) e c := by
  intro hback
  have hnames := (h.reaches_names (h.lt_of_enclosing hc he) hback).1
  refine h.orderly.acyclic (t.atlas.cls c).name (.head' ?_ hnames)
  simp [h.enclosing_eq hc, he]

/-- The variables of a class that nothing encloses. -/
lemma typeVars_of_none {a : Atlas} (h : (a.cls c).enclosingClass = none) :
    Scope.typeVars { cls := c } a = (a.cls c).typeParameters := by
  rw [Scope.typeVars_eq, Search.depthFirst_of_nil (by simp [h])]
  simp

/-- The variables of a class that another one encloses. -/
lemma Scoped.typeVars_of_some (h : Scoped b t) (hc : c.index < t.atlas.classes.size)
    (he : (t.atlas.cls c).enclosingClass = some e) :
    Scope.typeVars { cls := c } t.atlas =
      (t.atlas.cls c).typeParameters ++ Scope.typeVars { cls := e } t.atlas := by
  rw [Scope.typeVars_eq, Scope.typeVars_eq, Search.depthFirst_of_single
    (Scope.enclosing_live t.atlas) t.atlas.card_classIds_le (by rw [he]; rfl)
    (h.not_reaches hc he)]
  simp

/-- **The variables of a linked class are the type parameters in its scope.** -/
theorem Scoped.aligned (h : Scoped b t) (hc : c.index < t.atlas.classes.size) :
    Aligned t (Scope.typeVars { cls := c } t.atlas) (b.scopes (t.atlas.cls c).name) := by
  -- the induction is on the number of classes around the class, which is finite by name
  generalize hk : (Search.depthFirst b.enclosing b.size (t.atlas.cls c).name).length = k
  induction k generalizing c with
  | zero =>
      obtain ⟨rest, hrest⟩ := Search.depthFirst_eq_cons b.enclosing b.size (t.atlas.cls c).name
      rw [hrest] at hk
      cases hk
  | succ k ih =>
      have henclosing := h.enclosing_eq hc
      rcases h.onRecord hc with ⟨hr, hnone, hparameters⟩ | ⟨r, hr, honRecord⟩
      · rw [hnone] at henclosing
        rw [typeVars_of_none hnone, hparameters, Batch.scopes_of_nil henclosing, hr]
        exact .nil
      · rcases he : (t.atlas.cls c).enclosingClass with _ | e
        · rw [he] at henclosing
          have hvars := typeVars_of_none he
          rw [Batch.scopes_of_nil henclosing, hr, hvars,
            ← List.append_nil (ClassNode.typeParameters _)]
          exact .level (by rw [hvars, List.append_nil]) honRecord.declared .nil
        · rw [he] at henclosing
          have hlength :
              (Search.depthFirst b.enclosing b.size (t.atlas.cls e).name).length = k := by
            rw [Batch.depthFirst_enclosing h.orderly.acyclic henclosing] at hk
            exact Nat.succ.inj hk
          have hname : r.enclosingClass = some (t.atlas.cls e).name := by
            rw [Batch.enclosing_of_record? hr] at henclosing
            exact Option.toList_eq_singleton_iff.mp henclosing
          have hvars := h.typeVars_of_some hc he
          rw [Batch.scopes_of_single h.orderly.acyclic hr hname, hvars]
          exact .level hvars honRecord.declared (ih (h.lt_of_enclosing hc he) hlength)

end Linker

end ClassAtlas
