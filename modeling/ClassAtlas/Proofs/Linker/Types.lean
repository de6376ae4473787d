import ClassAtlas.Proofs.Linker.Moves
import ClassAtlas.Proofs.Search.Reachability

/-!
# Linking types

* `Scope.find?` — the variable that a name stands for in a scope.
* `Scope.Same` — a scope that declares the same variables in a later atlas.
* `Links` — how a signature and a linked type correspond, as far as erasure sees it.
* `Reads` — a signature describes a type in a scope.
* `TypeLinked` — a type is what a signature says.
* `moves_linkType`, `moves_linkTypes` — linking a signature gives a type that corresponds to it.
-/

namespace ClassAtlas.Linker

variable {F : Prop} {s t u : Linker}

/-! ## Scopes -/

namespace Scope

variable {a a' : Atlas} (scope : Scope)

/-- The variable that a name stands for in a scope. -/
def find? (a : Atlas) (name : String) : Option VarId :=
  (scope.typeVars a).find? fun v => (a.typeVar v).name == name

/-- The classes of an atlas that have something linked to them are no more than its positions. -/
lemma enclosing_live (a : Atlas) (c : ClassId) (h : (a.cls c).enclosingClass.toList ≠ []) :
    c ∈ a.classIds :=
  Atlas.mem_classIds (Atlas.lt_of_ne_default (fun c => c.enclosingClass.toList) h)

/-- The variables of a scope: of the code unit, then of the class and those around it. -/
lemma typeVars_eq (a : Atlas) : scope.typeVars a =
    (scope.codeUnit.toList.flatMap fun m => (a.member m).typeParameters) ++
      (Search.depthFirst (fun c => (a.cls c).enclosingClass.toList) a.classes.size
        scope.cls).flatMap fun c => (a.cls c).typeParameters := by
  rcases hunit : scope.codeUnit with _ | m <;> simp [typeVars, hunit, Member.typeParameters]

/-- A scope declares the same variables in two atlases, one later than the other. -/
structure Same (a a' : Atlas) : Prop where
  classesSize : a.classes.size ≤ a'.classes.size
  enclosingClass : ∀ c, (a'.cls c).enclosingClass = (a.cls c).enclosingClass
  classParameters : ∀ c, (a'.cls c).typeParameters = (a.cls c).typeParameters
  unitParameters : ∀ m, scope.codeUnit = some m →
    (a'.member m).typeParameters = (a.member m).typeParameters
  variableName : ∀ v : VarId, v.index < a.typeVars.size →
    (a'.typeVar v).name = (a.typeVar v).name

lemma same_of_grows (h : a.Grows a') : scope.Same a a' where
  classesSize := h.classesSize
  enclosingClass := h.enclosingClass
  classParameters := h.typeParameters
  unitParameters m _ := by rw [h.member]
  variableName v hv := by rw [h.typeVar v hv]

variable {scope}

lemma Same.typeVars (h : scope.Same a a') : scope.typeVars a' = scope.typeVars a := by
  have hclasses : Search.depthFirst (fun c => (a.cls c).enclosingClass.toList) a'.classes.size
      scope.cls = Search.depthFirst _ a.classes.size scope.cls :=
    Search.depthFirst_eq_of_le (enclosing_live a) a.card_classIds_le h.classesSize
  have hunit : (scope.codeUnit.toList.flatMap fun m => (a'.member m).typeParameters) =
      scope.codeUnit.toList.flatMap fun m => (a.member m).typeParameters :=
    List.flatMap_congr fun m hm => h.unitParameters m (Option.mem_toList.mp hm)
  simp only [typeVars_eq, hunit, h.enclosingClass, hclasses, h.classParameters]

lemma lt_of_mem_typeVars (ha : a.Closed) {v : VarId} (hv : v ∈ scope.typeVars a) :
    v.index < a.typeVars.size := by
  rw [typeVars_eq] at hv
  rcases List.mem_append.mp hv with hv | hv
  · obtain ⟨m, -, hm⟩ := List.mem_flatMap.mp hv
    exact ha.unitParameters m v hm
  · obtain ⟨c, -, hc⟩ := List.mem_flatMap.mp hv
    exact ha.classParameters c v hc

lemma Same.find? (h : scope.Same a a') (ha : a.Closed) (name : String) :
    scope.find? a' name = scope.find? a name := by
  rw [Scope.find?, Scope.find?, h.typeVars]
  refine List.find?_congr fun v hv => ?_
  rw [h.variableName v (lt_of_mem_typeVars ha hv)]

lemma lt_of_find? (ha : a.Closed) {name : String} {v : VarId} (h : scope.find? a name = some v) :
    v.index < a.typeVars.size :=
  lt_of_mem_typeVars ha (List.mem_of_find?_eq_some h)

end Scope

/-! ## Signatures and types -/

/-- How a signature and a linked type correspond.  Of arguments and of further bounds, which erasure
does not look at, nothing is said. -/
inductive Links (t : Linker) (scope : Scope) : TypeSig → TypeRef → Prop
  | cls {name : String} {id : ClassId} (h : t.atlas.names.get? name = some id) :
      Links t scope (.cls name) (.cls id)
  | parameterized {raw : String} {id : ClassId} {arguments : List TypeSig} {types : List TypeRef}
      (h : t.atlas.names.get? raw = some id) :
      Links t scope (.parameterized raw arguments) (.parameterized id types)
  | declared {name : String} {v : VarId} (h : scope.find? t.atlas name = some v) :
      Links t scope (.variable name) (.variable v)
  | undeclared {name : String} {v : VarId} (h : scope.find? t.atlas name = none)
      (hv : ((scope.owner, name), v) ∈ t.undeclared) : Links t scope (.variable name) (.variable v)
  | unbounded {lower : List TypeSig} {types : List TypeRef} :
      Links t scope (.wildcard [] lower) (.wildcard [] types)
  | bounded {bound : TypeSig} {upper lower : List TypeSig} {type : TypeRef}
      {types types' : List TypeRef} (h : Links t scope bound type) :
      Links t scope (.wildcard (bound :: upper) lower) (.wildcard (type :: types) types')
  | genericArray {component : TypeSig} {type : TypeRef} {erasure : ClassId}
      (h : Links t scope component type)
      (hfits : type.Within t.atlas.classes.size t.atlas.typeVars.size)
      (harray : t.atlas.names.get? ((t.atlas.cls (t.atlas.erasure type)).name ++ "[]") =
        some erasure) :
      Links t scope (.genericArray component) (.genericArray type erasure)

/-- What correspondence depends on is the same in a later state. -/
structure Scope.Keeps (scope : Scope) (t u : Linker) : Prop where
  same : scope.Same t.atlas u.atlas
  names : ∀ name id, t.atlas.names.get? name = some id → u.atlas.names.get? name = some id
  undeclared : t.undeclared ⊆ u.undeclared
  className : ∀ c : ClassId, c.index < t.atlas.classes.size →
    (u.atlas.cls c).name = (t.atlas.cls c).name
  typeVarsSize : t.atlas.typeVars.size ≤ u.atlas.typeVars.size
  typeVar : ∀ v : VarId, v.index < t.atlas.typeVars.size → u.atlas.typeVar v = t.atlas.typeVar v

lemma Grows.keeps (h : Grows t u) (scope : Scope) : scope.Keeps t u :=
  ⟨scope.same_of_grows h.atlas, h.atlas.names, h.kept, fun c hc => by rw [h.atlas.cls c hc],
    h.atlas.typeVarsSize, h.atlas.typeVar⟩

/-- The positions in a type are taken. -/
def Fits (t : Linker) (type : TypeRef) : Prop :=
  type.Within t.atlas.classes.size t.atlas.typeVars.size

lemma Fits.keeps {scope : Scope} {type : TypeRef} (h : Fits t type) (htu : scope.Keeps t u) :
    Fits u type :=
  h.mono htu.same.classesSize htu.typeVarsSize

lemma Links.keeps {scope : Scope} {sig : TypeSig} {type : TypeRef} (h : Links t scope sig type)
    (ht : t.WF) (htu : scope.Keeps t u) : Links u scope sig type := by
  induction h with
  | cls h => exact .cls (htu.names _ _ h)
  | parameterized h => exact .parameterized (htu.names _ _ h)
  | declared h => exact .declared (by rwa [htu.same.find? ht.closed])
  | undeclared h hv => exact .undeclared (by rwa [htu.same.find? ht.closed]) (htu.undeclared hv)
  | unbounded => exact .unbounded
  | bounded _ ih => exact .bounded ih
  | genericArray _ hfits harray ih =>
      refine .genericArray ih (Fits.keeps hfits htu) ?_
      rw [ht.closed.erasure_eq htu.typeVar hfits,
        htu.className _ (ht.closed.erasure_lt hfits)]
      exact htu.names _ _ harray

/-- A signature describes a type, if names are read in a scope. -/
def Reads (t : Linker) (scope : Scope) : TypeSig → TypeRef → Prop :=
  TypeSig.Describes (Known t) fun name v => Links t scope (.variable name) (.variable v)

lemma Reads.keeps {scope : Scope} {sig : TypeSig} {type : TypeRef} (h : Reads t scope sig type)
    (ht : t.WF) (htu : scope.Keeps t u) : Reads u scope sig type :=
  h.imp htu.names fun _ _ hv => hv.keeps ht htu

/-- A type is what a signature says, and its positions are taken. -/
structure TypeLinked (t : Linker) (scope : Scope) (sig : TypeSig) (type : TypeRef) : Prop where
  links : Links t scope sig type
  fits : Fits t type
  reads : Reads t scope sig type

lemma TypeLinked.keeps {scope : Scope} {sig : TypeSig} {type : TypeRef}
    (h : TypeLinked t scope sig type) (ht : t.WF) (htu : scope.Keeps t u) :
    TypeLinked u scope sig type :=
  ⟨h.links.keeps ht htu, h.fits.keeps htu, h.reads.keeps ht htu⟩

lemma TypeLinked.grows {scope : Scope} {sig : TypeSig} {type : TypeRef}
    (h : TypeLinked t scope sig type) (ht : t.WF) (htu : Grows t u) :
    TypeLinked u scope sig type :=
  h.keeps ht (htu.keeps scope)

lemma TypeLinked.forall_fits {scope : Scope} {sigs : List TypeSig} {types : List TypeRef}
    (h : List.Forall₂ (TypeLinked t scope) sigs types) : ∀ type ∈ types, Fits t type := by
  intro type htype
  obtain ⟨sig, -, hlinked⟩ := h.exists_left htype
  exact hlinked.fits

lemma loose_addVariable (a : Atlas) (owner : VarOwner) (name : String) :
    Loose (a.addVariable name owner).2 ((owner, name), ⟨a.typeVars.size⟩) := by
  constructor <;> simp [Atlas.addVariable, Atlas.typeVar]

/-- A name stands for a variable that is declared in the scope, or for a loose one. -/
theorem moves_linkVariable (scope : Scope) (name : String) (hs : s.WF)
    (hscope : scope.owner.Within s.atlas.extent) :
    Moves Grows F s (linkVariable scope name) fun id t =>
      Links t scope (.variable name) (.variable id) ∧ id.index < t.atlas.typeVars.size := by
  unfold linkVariable
  refine moves_get_bind ?_
  rw [← Scope.find?]
  rcases hfound : scope.find? s.atlas name with _ | id
  · rcases hlookup : s.undeclared.lookup (scope.owner, name) with _ | id
    · have hgrows : Grows s { s with
          atlas := (s.atlas.addVariable name scope.owner).2
          undeclared := s.undeclared ++ [((scope.owner, name), ⟨s.atlas.typeVars.size⟩)] } := by
        refine ⟨rfl, rfl, rfl, Atlas.grows_addVariable name hscope, Atlas.Named.addVariable,
          List.subset_append_left _ _, ?_⟩
        intro entry hentry
        rcases List.mem_append.mp hentry with hold | hnew
        · exact Or.inl hold
        · cases List.mem_singleton.mp hnew
          exact Or.inr ⟨le_rfl, loose_addVariable _ _ _⟩
      have hnone := ((scope.same_of_grows hgrows.atlas).find? hs.closed name).trans hfound
      have hmem : ((scope.owner, name), ⟨s.atlas.typeVars.size⟩) ∈ s.undeclared ++
          [((scope.owner, name), ⟨s.atlas.typeVars.size⟩)] := by simp
      exact ⟨hgrows, .undeclared hnone hmem, ((hgrows.wf hs).undeclared _ hmem).taken⟩
    · obtain ⟨before, after, heq, -⟩ := List.lookup_eq_some_iff.mp hlookup
      have hmem : ((scope.owner, name), id) ∈ s.undeclared := by rw [heq]; simp
      exact moves_pure ⟨.undeclared hfound hmem, (hs.undeclared _ hmem).taken⟩
  · exact moves_pure ⟨.declared hfound, Scope.lt_of_find? hs.closed hfound⟩

/-- The array of a class can be interned, since the name of the class is known to be one. -/
lemma moves_intern_array (hs : s.WF) {id : ClassId} (hid : id.index < s.atlas.classes.size) :
    Moves Grows F s (intern ((s.atlas.cls id).name ++ "[]"))
      fun arrayId t => t.atlas.names.get? ((s.atlas.cls id).name ++ "[]") = some arrayId :=
  moves_intern_of fun hfail => absurd (hs.named.intern_array hid) hfail

mutual

/-- **Linking a signature gives a type that corresponds to it**, and fails only if one of its names
cannot be read. -/
theorem moves_linkType (scope : Scope) : ∀ (sig : TypeSig) (s : Linker), s.WF →
    scope.owner.Within s.atlas.extent →
    (∀ n ∈ sig.names, Registry.readable n.toList = false → F) →
    Moves Grows F s (linkType scope sig) fun type t => TypeLinked t scope sig type
  | .cls name, s, hs, hscope, hF => by
      rw [linkType]
      refine (moves_intern (hF name (by simp [TypeSig.names]))).bind fun id t hst hid => ?_
      exact moves_pure ⟨.cls hid, (hst.wf hs).named.inRange hid, .cls hid⟩
  | .parameterized raw arguments, s, hs, hscope, hF => by
      rw [linkType]
      refine (moves_intern (hF raw (by simp [TypeSig.names]))).bind fun id t hst hid => ?_
      refine (moves_linkTypes scope arguments t (hst.wf hs) (hscope.mono hst.atlas.extent)
        fun n hn => hF n (by simp [TypeSig.names, hn])).bind fun types u htu htypes =>
          moves_pure ⟨?_, ⟨?_, ?_⟩, ?_⟩
      · exact .parameterized (htu.atlas.names _ _ hid)
      · exact (htu.wf (hst.wf hs)).named.inRange (htu.atlas.names _ _ hid)
      · exact TypeRef.allWithin_iff.mpr (TypeLinked.forall_fits htypes)
      · refine .parameterized (htu.atlas.names _ _ hid) (TypeSig.describesAll_iff.mpr ?_)
        exact htypes.imp fun _ _ h => h.reads
  | .variable name, s, hs, hscope, hF => by
      rw [linkType]
      exact (moves_linkVariable scope name hs hscope).bind fun id t _ h =>
        moves_pure ⟨h.1, h.2, .variable h.1⟩
  | .wildcard upper lower, s, hs, hscope, hF => by
      rw [linkType]
      refine (moves_linkTypes scope upper s hs hscope fun n hn =>
        hF n (by simp [TypeSig.names, hn])).bind fun types t hst hupper => ?_
      have ht := hst.wf hs
      refine (moves_linkTypes scope lower t ht (hscope.mono hst.atlas.extent) fun n hn =>
        hF n (by simp [TypeSig.names, hn])).bind fun types' u htu hlower => ?_
      have hupper := hupper.imp fun _ _ h => h.grows ht htu
      refine moves_pure ⟨?_, ⟨?_, ?_⟩, .wildcard ?_ ?_⟩
      · rcases hupper with _ | ⟨hbound, _⟩
        · exact .unbounded
        · exact .bounded hbound.links
      · exact TypeRef.allWithin_iff.mpr (TypeLinked.forall_fits hupper)
      · exact TypeRef.allWithin_iff.mpr (TypeLinked.forall_fits hlower)
      · exact TypeSig.describesAll_iff.mpr (hupper.imp fun _ _ h => h.reads)
      · exact TypeSig.describesAll_iff.mpr (hlower.imp fun _ _ h => h.reads)
  | .genericArray component, s, hs, hscope, hF => by
      rw [linkType]
      refine (moves_linkType scope component s hs hscope hF).bind fun type t hst htype => ?_
      have ht := hst.wf hs
      have hlt := ht.closed.erasure_lt htype.fits
      refine moves_get_bind ((moves_intern_array ht hlt).bind fun id u htu hid => ?_)
      have herasure : u.atlas.erasure type = t.atlas.erasure type :=
        ht.closed.erasure_eq htu.atlas.typeVar htype.fits
      have htype := htype.grows ht htu
      refine moves_pure ⟨.genericArray htype.links htype.fits ?_, ⟨htype.fits, ?_⟩,
        .genericArray htype.reads⟩
      · rwa [herasure, htu.atlas.cls _ hlt]
      · exact (htu.wf ht).named.inRange hid

theorem moves_linkTypes (scope : Scope) : ∀ (sigs : List TypeSig) (s : Linker), s.WF →
    scope.owner.Within s.atlas.extent →
    (∀ n ∈ TypeSig.namesIn sigs, Registry.readable n.toList = false → F) →
    Moves Grows F s (linkTypes scope sigs) fun types t =>
      List.Forall₂ (TypeLinked t scope) sigs types
  | [], s, hs, hscope, hF => by
      rw [linkTypes]
      exact moves_pure .nil
  | sig :: sigs, s, hs, hscope, hF => by
      rw [linkTypes]
      refine (moves_linkType scope sig s hs hscope fun n hn =>
        hF n (by simp [TypeSig.namesIn, hn])).bind fun type t hst htype => ?_
      refine (moves_linkTypes scope sigs t (hst.wf hs) (hscope.mono hst.atlas.extent) fun n hn =>
        hF n (by simp [TypeSig.namesIn, hn])).bind fun types u htu htypes => moves_pure ?_
      exact .cons (htype.grows (hst.wf hs) htu) htypes

end

end ClassAtlas.Linker
