import ClassAtlas.Proofs.Linker.Hierarchy
import ClassAtlas.Proofs.TypeName.FieldDescriptor

/-!
# What linked types erase to

Once the variables of a scope are linked to the type parameters that are in scope by name, erasing a
linked type gives the class that its signature erases to.

* `Aligned` — variables and type parameters correspond, scope by scope.
* `Aligned.find?` — a name stands for corresponding declarations.
* `Erasable.fieldDescriptor_erasureWithin` — **the descriptor of the erasure of a linked type is
  that of the name its signature is linked to**.
-/

namespace ClassAtlas

/-- A type parameter whose bounds are classes, parameterized types or type variables, with names in
binary form. -/
def TypeParam.Plain (p : TypeParam) : Prop :=
  ∀ bound ∈ p.bounds, bound.IsBound ∧ ∀ n ∈ bound.names, Canonical n

namespace Linker

variable {t : Linker} {scope : Scope} {scopes : TypeScopes}

/-! ## Declarations -/

/-- A variable is what a type parameter is linked to: they have the same name, and the bounds of the
parameter are linked in the scope that declares it. -/
structure Declaration (t : Linker) (scope : Scope) (p : TypeParam) (v : VarId) : Prop where
  name : (t.atlas.typeVar v).name = p.name
  bounds : BoundsLinked t scope p v
  plain : p.Plain

lemma forall₂_declaration {parameters : List TypeParam} {vars : List VarId}
    (hname : List.Forall₂ (fun p v => (t.atlas.typeVar v).name = p.name) parameters vars)
    (hbounds : List.Forall₂ (BoundsLinked t scope) parameters vars)
    (hplain : ∀ p ∈ parameters, p.Plain) :
    List.Forall₂ (Declaration t scope) parameters vars := by
  obtain ⟨hlength, hname⟩ := List.forall₂_iff_zip.mp hname
  obtain ⟨-, hbounds⟩ := List.forall₂_iff_zip.mp hbounds
  exact List.forall₂_iff_zip.mpr ⟨hlength, fun hmem =>
    ⟨hname hmem, hbounds hmem, hplain _ (List.of_mem_zip hmem).1⟩⟩

/-- The first bounds correspond. -/
lemma Declaration.first_bound {p : TypeParam} {v : VarId} (h : Declaration t scope p v) :
    (p.bounds = [] ∧ (t.atlas.typeVar v).bounds = []) ∨
    ∃ bound bounds type types, p.bounds = bound :: bounds ∧
      (t.atlas.typeVar v).bounds = type :: types ∧ bound.IsBound ∧
      (∀ n ∈ bound.names, Canonical n) ∧ Links t scope bound type := by
  have hbounds : List.Forall₂ _ p.bounds (t.atlas.typeVar v).bounds := h.bounds
  have hplain := h.plain
  rw [TypeParam.Plain] at hplain
  revert hbounds hplain
  generalize p.bounds = bounds, (t.atlas.typeVar v).bounds = types
  rintro (_ | ⟨hfirst, _⟩) hplain
  · exact Or.inl ⟨rfl, rfl⟩
  · obtain ⟨hbound, hnames⟩ := hplain _ (List.mem_cons_self ..)
    exact Or.inr ⟨_, _, _, _, rfl, rfl, hbound, hnames, hfirst.1 hbound⟩

/-- Variables and type parameters correspond, scope by scope. -/
inductive Aligned (t : Linker) : List VarId → TypeScopes → Prop
  | nil : Aligned t [] []
  | level {scope : Scope} {parameters : List TypeParam} {vars outer : List VarId}
      {scopes : TypeScopes} (hscope : scope.typeVars t.atlas = vars ++ outer)
      (hdeclared : List.Forall₂ (Declaration t scope) parameters vars)
      (houter : Aligned t outer scopes) : Aligned t (vars ++ outer) (parameters :: scopes)

/-- **A name stands for corresponding declarations**, or is declared on neither side. -/
theorem Aligned.find? {vars : List VarId} (h : Aligned t vars scopes) (name : String) :
    (vars.find? (fun v => (t.atlas.typeVar v).name == name) = none ∧
      declarationOf name scopes = none) ∨
    ∃ v p scope outward, vars.find? (fun v => (t.atlas.typeVar v).name == name) = some v ∧
      declarationOf name scopes = some (p, outward) ∧ Declaration t scope p v ∧
      Aligned t (scope.typeVars t.atlas) outward := by
  induction h with
  | nil => exact Or.inl ⟨rfl, rfl⟩
  | @level scope parameters vars outer scopes hscope hdeclared houter ih =>
      have hfind := hdeclared.find? (p := fun p => p.name == name)
        (q := fun v => (t.atlas.typeVar v).name == name) fun p v h => by rw [h.name]
      rw [List.find?_append, declarationOf]
      rcases hfind with ⟨hp, hv⟩ | ⟨p, v, hp, hv, hdeclaration⟩
      · rw [hp, hv]
        exact ih
      · rw [hp, hv]
        refine Or.inr ⟨v, p, scope, _, rfl, rfl, hdeclaration, ?_⟩
        rw [hscope]
        exact .level hscope hdeclared houter

/-! ## Erasing -/

/-- What erasing by class and by name end with alike. -/
structure Erasable (t : Linker) : Prop where
  wf : t.WF
  object : (t.atlas.cls Atlas.object).name = objectClassName

/-- A class of a name in binary form has this name. -/
lemma Erasable.name_eq (ht : Erasable t) {n : String} (hn : Canonical n) {id : ClassId}
    (h : t.atlas.names.get? n = some id) : (t.atlas.cls id).name = n := by
  obtain ⟨d, hd, rfl⟩ := hn
  exact ht.wf.named.name_eq hd h

/-- What can be a bound erases to the same class on both sides. -/
lemma Erasable.name_erasure_bound (ht : Erasable t) (n : ℕ) {sig : TypeSig} {type : TypeRef}
    (halign : Aligned t (scope.typeVars t.atlas) scopes) (hsig : sig.IsBound)
    (hnames : ∀ n ∈ sig.names, Canonical n) (hlinks : Links t scope sig type) :
    (t.atlas.cls (t.atlas.erasureWithin n type)).name = sig.erasedWithin n scopes := by
  induction n generalizing scope scopes sig type with
  | zero => exact ht.object
  | succ n ih =>
      cases hlinks with
      | @cls name _ h => exact ht.name_eq (hnames name (by simp [TypeSig.names])) h
      | @parameterized raw _ _ _ h => exact ht.name_eq (hnames raw (by simp [TypeSig.names])) h
      | @declared name v h =>
          rcases halign.find? name with ⟨hnone, -⟩ | ⟨w, p, scope', outward, hw, hp, hdecl, hout⟩
          · rw [Scope.find?, hnone] at h
            cases h
          · obtain rfl : w = v := Option.some.inj (hw.symm.trans h)
            obtain ⟨pname, bounds⟩ := p
            obtain ⟨rfl, htypes⟩ | ⟨bound, _, type, _, rfl, htypes, hbound, hcanonical, hfirst⟩ :=
              hdecl.first_bound
            · simp only [Atlas.erasureWithin, htypes, TypeSig.erasedWithin, hp]
              exact ht.object
            · simp only [Atlas.erasureWithin, htypes, TypeSig.erasedWithin, hp]
              exact ih hout hbound hcanonical hfirst
      | @undeclared name v h hv =>
          have hloose := (ht.wf.undeclared _ hv).unbounded
          rcases halign.find? name with ⟨-, hnone⟩ | ⟨w, _, _, _, hw, -⟩
          · simp only [Atlas.erasureWithin, hloose, TypeSig.erasedWithin, hnone]
            exact ht.object
          · rw [Scope.find?, hw] at h
            cases h
      | _ => exact hsig.elim

/-- The class of an array: its type is an array of what the component erases to. -/
lemma Erasable.fieldDescriptor_genericArray (ht : Erasable t) {type : TypeRef} {erasure : ClassId}
    (hfits : Fits t type)
    (h : t.atlas.names.get? ((t.atlas.cls (t.atlas.erasure type)).name ++ "[]") = some erasure) :
    fieldDescriptor (t.atlas.cls erasure).name =
      "[" ++ fieldDescriptor (t.atlas.cls (t.atlas.erasure type)).name := by
  have hproper := ht.wf.named.proper (ht.wf.closed.erasure_lt hfits)
  have htype : (t.atlas.cls erasure).type = .array (t.atlas.cls (t.atlas.erasure type)).type :=
    ht.wf.named.type_eq h (Registry.denotes_brackets hproper)
  rw [ClassNode.name, htype]
  exact fieldDescriptor_array hproper

/-- **The descriptor of what a linked type erases to is that of the name its signature is linked
to.** -/
theorem Erasable.fieldDescriptor_erasureWithin (ht : Erasable t) {sig : TypeSig} {type : TypeRef}
    (halign : Aligned t (scope.typeVars t.atlas) scopes)
    (hnames : ∀ n ∈ sig.names, Canonical n) (hlinks : Links t scope sig type) (n : ℕ) :
    fieldDescriptor (t.atlas.cls (t.atlas.erasureWithin n type)).name =
      fieldDescriptor (sig.linkedWithin scopes n) := by
  have hbound : ∀ {sig : TypeSig} {type : TypeRef} (n : ℕ), sig.IsBound →
      (∀ n ∈ sig.names, Canonical n) → Links t scope sig type →
      fieldDescriptor (t.atlas.cls (t.atlas.erasureWithin n type)).name =
        fieldDescriptor (sig.linkedWithin scopes n) := by
    intro sig type n hsig hnames hlinks
    rw [ht.name_erasure_bound n halign hsig hnames hlinks, TypeSig.linkedWithin_of_isBound hsig]
  induction hlinks generalizing n with
  | cls h => exact hbound n trivial hnames (.cls h)
  | parameterized h => exact hbound n trivial hnames (.parameterized h)
  | declared h => exact hbound n trivial hnames (.declared h)
  | undeclared h hv => exact hbound n trivial hnames (.undeclared h hv)
  | unbounded =>
      cases n with
      | zero => rw [Atlas.erasureWithin, TypeSig.linkedWithin, ht.object]
      | succ n => rw [Atlas.erasureWithin, TypeSig.linkedWithin, ht.object]
  | bounded _ ih =>
      cases n with
      | zero => rw [Atlas.erasureWithin, TypeSig.linkedWithin, ht.object]
      | succ n =>
          rw [Atlas.erasureWithin, TypeSig.linkedWithin]
          exact ih (fun m hm => hnames m (by simp [TypeSig.names, TypeSig.namesIn, hm])) n
  | genericArray _ hfits harray ih =>
      cases n with
      | zero => rw [Atlas.erasureWithin, TypeSig.linkedWithin, ht.object]
      | succ n =>
          rw [Atlas.erasureWithin, TypeSig.linkedWithin, fieldDescriptor_brackets,
            ht.fieldDescriptor_genericArray hfits harray]
          exact congrArg ("[" ++ ·) (ih hnames 33)

end Linker

end ClassAtlas
