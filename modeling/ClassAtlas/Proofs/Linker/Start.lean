import ClassAtlas.Linker.Run
import ClassAtlas.Proofs.Linker.Edits

/-!
# Registering classes

* `Atlas.Registered` — an atlas in which classes are registered and nothing is linked.
* `Registers` — the classes are those of some headers, and each has what the first of its headers
  says.
* `start_registers` — linking starts with such an atlas for the headers of the context.
* `start_isOk` — linking can start if the names of the classes can be read.
-/

namespace ClassAtlas

/-- The first element of a list that satisfies a predicate. -/
structure FirstOf {α : Type} (P : α → Prop) (l : List α) (x : α) : Prop where
  holds : P x
  split : ∃ before after, l = before ++ x :: after ∧ ∀ y ∈ before, ¬ P y

namespace FirstOf

variable {α β : Type} {P : α → Prop} {l : List α} {x y : α}

lemma append (h : FirstOf P l x) (l' : List α) : FirstOf P (l ++ l') x := by
  obtain ⟨before, after, rfl, hbefore⟩ := h.split
  exact ⟨h.holds, before, after ++ l', by simp, hbefore⟩

lemma mem (h : FirstOf P l x) : x ∈ l := by
  obtain ⟨before, after, rfl, -⟩ := h.split
  simp

lemma eq_head (h : FirstOf P (y :: l) x) (hy : P y) : x = y := by
  obtain ⟨before, after, heq, hbefore⟩ := h.split
  cases before with
  | nil => exact (List.cons.inj heq).1.symm
  | cons z before =>
      rw [List.cons_append, List.cons.injEq] at heq
      exact absurd (heq.1 ▸ hy) (hbefore z (List.mem_cons_self ..))

/-- If the first element for a weaker predicate has the stronger one, it is the first for that. -/
lemma of_imp {Q : α → Prop} (h : FirstOf P l x) (hx : Q x) (himp : ∀ y ∈ l, Q y → P y) :
    FirstOf Q l x := by
  obtain ⟨before, after, rfl, hbefore⟩ := h.split
  refine ⟨hx, before, after, rfl, fun y hy hQ => hbefore y hy (himp y ?_ hQ)⟩
  exact List.mem_append_left _ hy

lemma of_map {f : β → α} {l : List β} (h : FirstOf P (l.map f) x) :
    ∃ y, f y = x ∧ FirstOf (fun y => P (f y)) l y := by
  obtain ⟨before, after, heq, hbefore⟩ := h.split
  obtain ⟨before', rest, rfl, rfl, hrest⟩ := List.map_eq_append_iff.mp heq
  obtain ⟨y, after', rfl, rfl, -⟩ := List.map_eq_cons_iff.mp hrest
  refine ⟨y, rfl, h.holds, before', after', rfl, fun z hz => ?_⟩
  exact hbefore _ (List.mem_map_of_mem hz)

end FirstOf

namespace Atlas

open Registry

/-- An atlas in which classes are registered and nothing is linked. -/
structure Registered (a : Atlas) : Prop where
  named : a.Named
  nonempty : 0 < a.classes.size
  topmost : (a.cls object).type = .object objectClassName
  members : a.members = #[]
  accesses : a.accesses = #[]
  typeVars : a.typeVars = #[]
  nodup : a.imported.toList.Nodup
  mem_imported : ∀ c, c ∈ a.imported.toList ↔ (a.cls c).imported = true
  blank : ∀ c, (a.cls c).Blank

variable {a a' : Atlas}

lemma Registered.lt (ha : Registered a) {c : ClassId} (hc : c ∈ a.imported.toList) :
    c.index < a.classes.size :=
  lt_of_imported ((ha.mem_imported c).mp hc)

/-- Names that are interned leave everything else as it is. -/
lemma Registered.intern (ha : Registered a) {name : String} {id : ClassId}
    (h : a.intern name = .ok (id, a')) : Registered a' := by
  have hgrows := grows_intern h
  refine ⟨ha.named.intern h, ha.nonempty.trans_le hgrows.classesSize,
    (congrArg ClassNode.type (hgrows.cls _ ha.nonempty)).trans ha.topmost,
    hgrows.members.trans ha.members, hgrows.accesses.trans ha.accesses,
    (typeVars_intern h).trans ha.typeVars, hgrows.imported ▸ ha.nodup, fun c => ?_, fun c => ?_⟩
  · rw [hgrows.imported, ha.mem_imported]
    rcases hgrows.cls_eq_or_bare c with heq | ⟨hb, hb'⟩
    · rw [heq]
    · rw [hb.imported, hb'.imported]
  · rcases hgrows.cls_eq_or_bare c with heq | ⟨-, hb⟩
    · rw [heq]
      exact ha.blank c
    · exact hb.toBlank

lemma proper_object : (Descriptor.object objectClassName).Proper := by decide +kernel

/-- The topmost class is the first one of an atlas. -/
lemma intern_object {id : ClassId} (h : Atlas.intern {} objectClassName = .ok (id, a)) :
    id = object := by
  rcases intern_eq_ok h with ⟨hknown, -⟩ | ⟨-, d, r, hread, hid, -⟩
  · simp at hknown
  · have hd : d = .object objectClassName :=
      (grounded_empty.describe hread).1.unique (denotes_name proper_object)
    rw [hid, hd]
    simp [place, addStub, object]

/-- The atlas that knows the topmost class only. -/
lemma registered_empty : Registered empty := by
  have hread : Registry.readable objectClassName.toList = true := by decide +kernel
  obtain ⟨id, a, h⟩ := intern_isOk hread {}
  have hempty : empty = a := by rw [empty, h]
  have hgrows := grows_intern h
  have hbare : ∀ c, (a.cls c).Bare := fun c => hgrows.bare c (Nat.zero_le _)
  rw [hempty]
  refine ⟨named_init.intern h, (Nat.zero_le _).trans_lt ((named_init.intern h).inRange
    (names_intern h)), ?_, hgrows.members, hgrows.accesses,
    typeVars_intern h, ?_, fun c => ?_, fun c => (hbare c).toBlank⟩
  · have hknown := intern_object h ▸ names_intern h
    exact (named_init.intern h).type_eq hknown (denotes_name proper_object)
  · rw [hgrows.imported]
    exact List.nodup_nil
  · rw [hgrows.imported, (hbare c).imported]
    simp

lemma imported_empty : empty.imported = #[] := by
  rw [empty]
  rcases h : Atlas.intern {} objectClassName with e | ⟨id, a⟩
  · rfl
  · exact (grows_intern h).imported

/-- A class that is marked as imported. -/
structure Marked (c c' : ClassNode) : Prop where
  imported : c'.imported = true
  identity : c'.identity = c.identity
  blank : c.Blank → c'.Blank

lemma Marked.type {c c' : ClassNode} (h : Marked c c') : c'.type = c.type :=
  congrArg (·.2.1) h.identity

/-- A class is marked as imported and listed. -/
lemma Registered.mark (ha : Registered a) {id : ClassId} (hid : id.index < a.classes.size)
    (hnew : (a.cls id).imported = false) {change : ClassNode → ClassNode}
    (hchange : ∀ c, Marked c (change c)) :
    Registered { a.modifyClass id change with imported := a.imported.push id } := by
  have hcls : ∀ c, ({ a.modifyClass id change with imported := a.imported.push id } : Atlas).cls c =
      if c = id ∧ c.index < a.classes.size then change (a.cls c) else a.cls c :=
    cls_modifyClass a id change
  have hnotMem : id ∉ a.imported.toList := by
    rw [ha.mem_imported, hnew]
    exact Bool.false_ne_true
  have hidentity := keep_modifyClass a ClassNode.identity (fun c => (hchange c).identity) id
  refine ⟨ha.named.of_identity (size_modifyClass ..) rfl rfl hidentity,
    ha.nonempty.trans_eq (size_modifyClass ..).symm,
    (congrArg (·.2.1) (hidentity object)).trans ha.topmost, ha.members, ha.accesses,
    ha.typeVars, ?_, fun c => ?_, fun c => ?_⟩
  · rw [Array.toList_push]
    exact List.nodup_append'.mpr ⟨ha.nodup, List.nodup_singleton id, by simpa using hnotMem⟩
  · rw [hcls, Array.toList_push, List.mem_append, List.mem_singleton, ha.mem_imported]
    split_ifs with hc
    · simp [(hchange _).imported, hc.1]
    · refine or_iff_left fun heq => hc ⟨heq, heq ▸ hid⟩
  · rw [hcls]
    split_ifs
    · exact (hchange _).blank (ha.blank c)
    · exact ha.blank c

end Atlas

namespace Linker

variable {files : Files} {options : ImportOptions} {a a' : Atlas}

/-- A class has what its header says. -/
structure Headed (files : Files) (options : ImportOptions) (h : Record.Header) (c : ClassNode) :
    Prop where
  kind : c.kind = h.kind
  modifiers : c.modifiers = h.modifiers
  source : c.source = h.source.map (Source.ofOrigin files options.checksums)

/-- What registering a class does. -/
lemma register_eq_ok {h : Record.Header} (hok : register files options a h = .ok a') :
    ∃ id b, a.intern h.name = .ok (id, b) ∧
      ((b.cls id).imported = true ∧ a' = b ∨
        (b.cls id).imported = false ∧ ∃ change : ClassNode → ClassNode,
          (∀ c, Atlas.Marked c (change c)) ∧ (∀ c, Headed files options h (change c)) ∧
          a' = { b.modifyClass id change with imported := b.imported.push id }) := by
  unfold register at hok
  rcases hintern : a.intern h.name with e | ⟨id, b⟩
  · rw [hintern] at hok
    cases hok
  · rw [hintern] at hok
    refine ⟨id, b, rfl, ?_⟩
    change (if (b.cls id).imported then _ else _) = _ at hok
    split_ifs at hok with himported
    · exact Or.inl ⟨himported, (Except.ok.inj hok).symm⟩
    · refine Or.inr ⟨Bool.eq_false_of_not_eq_true himported, _, fun c => ?_,
        fun c => ⟨rfl, rfl, rfl⟩, (Except.ok.inj hok).symm⟩
      refine ⟨rfl, rfl, fun hc => ⟨⟨?_, ?_, ?_, ?_, ?_, ?_⟩, hc.subclasses, hc.component⟩⟩
      · exact hc.superclass
      · exact hc.interfaces
      · exact hc.typeParameters
      · exact hc.enclosingClass
      · exact hc.members
      · exact hc.annotations

/-- A name that is known to belong to an imported class. -/
def HasClass (a : Atlas) (name : String) : Prop :=
  ∃ c ∈ a.imported.toList, a.names.get? name = some c

/-- The registered classes are those of the headers, and each of them has what the first header that
denotes it says. -/
structure Registers (files : Files) (options : ImportOptions) (headers : List Record.Header)
    (a : Atlas) : Prop extends Atlas.Registered a where
  hasClass : ∀ h ∈ headers, HasClass a h.name
  headed : ∀ c, (a.cls c).imported = true → ∃ h,
    FirstOf (fun h => Registry.Denotes h.name.toList (a.cls c).type) headers h ∧
      Headed files options h (a.cls c)

lemma registers_empty : Registers files options [] Atlas.empty := by
  refine ⟨Atlas.registered_empty, by simp, fun c hc => ?_⟩
  rw [← Atlas.registered_empty.mem_imported, Atlas.imported_empty] at hc
  simp at hc

/-- A header that is not the first one for its class changes nothing of what is registered. -/
lemma Registers.intern {headers : List Record.Header} {h : Record.Header} {id : ClassId} {b : Atlas}
    (ha : Registers files options headers a) (hintern : a.intern h.name = .ok (id, b))
    (himported : (b.cls id).imported = true) : Registers files options (headers ++ [h]) b := by
  have hgrows := Atlas.grows_intern hintern
  have hb := ha.toRegistered.intern hintern
  refine ⟨hb, fun h' hmem => ?_, fun c hc => ?_⟩
  · rcases List.mem_append.mp hmem with hmem | hmem
    · obtain ⟨c, hc, hname⟩ := ha.hasClass h' hmem
      exact ⟨c, hgrows.imported ▸ hc, hgrows.names _ _ hname⟩
    · rw [List.mem_singleton.mp hmem]
      exact ⟨id, (hb.mem_imported id).mpr himported, Atlas.names_intern hintern⟩
  · have hc' : c ∈ a.imported.toList := by
      rw [← hgrows.imported, hb.mem_imported]
      exact hc
    rw [hgrows.cls c (ha.lt hc')]
    obtain ⟨h', hfirst, hheaded⟩ := ha.headed c ((ha.mem_imported c).mp hc')
    exact ⟨h', hfirst.append [h], hheaded⟩

/-- A header that is the first one for its class. -/
lemma Registers.mark {headers : List Record.Header} {h : Record.Header} {id : ClassId} {b : Atlas}
    (ha : Registers files options headers a) (hintern : a.intern h.name = .ok (id, b))
    (hnew : (b.cls id).imported = false) {change : ClassNode → ClassNode}
    (hchange : ∀ c, Atlas.Marked c (change c)) (hheaded : ∀ c, Headed files options h (change c)) :
    Registers files options (headers ++ [h])
      { b.modifyClass id change with imported := b.imported.push id } := by
  have hgrows := Atlas.grows_intern hintern
  have hb := ha.toRegistered.intern hintern
  have hknown := Atlas.names_intern hintern
  have hid := hb.named.inRange hknown
  have hmark := hb.mark hid hnew hchange
  refine ⟨hmark, fun h' hmem => ?_, fun c hc => ?_⟩
  · rcases List.mem_append.mp hmem with hmem | hmem
    · obtain ⟨c, hc, hname⟩ := ha.hasClass h' hmem
      exact ⟨c, by simp [hgrows.imported ▸ hc], hgrows.names _ _ hname⟩
    · rw [List.mem_singleton.mp hmem]
      exact ⟨id, by simp, hknown⟩
  · have hcls := Atlas.cls_modifyClass b id change c
    change ((b.modifyClass id change).cls c).imported = true at hc
    change ∃ h', FirstOf
      (fun h => Registry.Denotes h.name.toList ((b.modifyClass id change).cls c).type) _ h' ∧
      Headed files options h' ((b.modifyClass id change).cls c)
    rw [hcls] at hc ⊢
    split_ifs at hc ⊢ with heq
    · obtain ⟨rfl, -⟩ := heq
      rw [(hchange _).type]
      refine ⟨h, ⟨hb.named.denotes hknown, headers, [], rfl, fun h' hmem hdenotes => ?_⟩, hheaded _⟩
      -- an earlier header for the class would have registered it
      obtain ⟨c', hc', hname⟩ := ha.hasClass h' hmem
      have hname' := hgrows.names _ _ hname
      have htype := hb.named.type_eq hname' hdenotes
      have hsame : c' = c :=
        hb.named.name_inj (hb.named.inRange hname') hid (congrArg Descriptor.name htype)
      rw [← hgrows.imported, hb.mem_imported, hsame, hnew] at hc'
      cases hc'
    · have hc' : c ∈ a.imported.toList := by
        rw [← hgrows.imported, hb.mem_imported]
        exact hc
      rw [hgrows.cls c (ha.lt hc')]
      obtain ⟨h', hfirst, hheaded⟩ := ha.headed c ((ha.mem_imported c).mp hc')
      exact ⟨h', hfirst.append [h], hheaded⟩

lemma registers_register {headers : List Record.Header} {h : Record.Header}
    (ha : Registers files options headers a) (hok : register files options a h = .ok a') :
    Registers files options (headers ++ [h]) a' := by
  obtain ⟨id, b, hintern, ⟨himported, rfl⟩ | ⟨hnew, change, hchange, hheaded, rfl⟩⟩ :=
    register_eq_ok hok
  · exact ha.intern hintern himported
  · exact ha.mark hintern hnew hchange hheaded

lemma registers_foldlM : ∀ {headers before : List Record.Header} {a a' : Atlas},
    Registers files options before a → headers.foldlM (register files options) a = .ok a' →
    Registers files options (before ++ headers) a'
  | [], before, a, a', ha, hok => by
      cases hok
      rwa [List.append_nil]
  | h :: headers, before, a, a', ha, hok => by
      rw [List.foldlM_cons] at hok
      rcases hfirst : register files options a h with e | b
      · rw [hfirst] at hok
        cases hok
      · rw [hfirst] at hok
        have hall := registers_foldlM (registers_register ha hfirst) hok
        rwa [List.append_assoc, List.singleton_append] at hall

/-- The state in which linking starts. -/
structure Started (context : ImportContext) (s : Linker) : Prop where
  context : s.context = context
  phase : s.phase = .created
  pending : s.pending = []
  undeclared : s.undeclared = []
  registered : s.atlas.Registered
  hasClass : ∀ h ∈ s.context.headers, HasClass s.atlas h.name

/-- **Linking starts with the classes of the context registered**, each as the first header for it
says, **and nothing linked.** -/
theorem start_registers {context : ImportContext} {s : Linker}
    (hok : start context options files = .ok s) :
    Started context s ∧ Registers files options context.headers s.atlas := by
  unfold start at hok
  rcases hall : context.headers.foldlM (register files options) Atlas.empty with e | a
  · rw [hall] at hok
    cases hok
  · rw [hall] at hok
    cases hok
    have ha := registers_foldlM registers_empty hall
    exact ⟨⟨rfl, rfl, rfl, rfl, ha.toRegistered, ha.hasClass⟩, ha⟩

lemma start_eq_ok {context : ImportContext} {s : Linker}
    (hok : start context options files = .ok s) : Started context s :=
  (start_registers hok).1

lemma register_isOk (files : Files) (options : ImportOptions) (a : Atlas) {h : Record.Header}
    (hread : Registry.readable h.name.toList = true) :
    ∃ a', register files options a h = .ok a' := by
  obtain ⟨id, b, hintern⟩ := Atlas.intern_isOk hread a
  unfold register
  rw [hintern]
  change ∃ a', (if (b.cls id).imported then _ else _) = Except.ok a'
  split_ifs
  · exact ⟨_, rfl⟩
  · exact ⟨_, rfl⟩

/-- **Linking can start if the names of the classes can be read.** -/
theorem start_isOk {context : ImportContext} (options : ImportOptions) (files : Files)
    (hread : ∀ h ∈ context.headers, Registry.readable h.name.toList = true) :
    ∃ s, start context options files = .ok s := by
  have hall : ∀ (headers : List Record.Header) (a : Atlas),
      (∀ h ∈ headers, Registry.readable h.name.toList = true) →
      ∃ a', headers.foldlM (register files options) a = .ok a' := by
    intro headers
    induction headers with
    | nil => exact fun a _ => ⟨a, rfl⟩
    | cons h headers ih =>
        intro a hread
        obtain ⟨b, hb⟩ := register_isOk files options a (hread h (List.mem_cons_self ..))
        obtain ⟨a', ha'⟩ := ih b fun h hh => hread h (List.mem_cons_of_mem _ hh)
        exact ⟨a', by rw [List.foldlM_cons, hb]; exact ha'⟩
  obtain ⟨a, ha⟩ := hall context.headers Atlas.empty hread
  exact ⟨_, by rw [start, ha]; rfl⟩

/-- A state in which linking starts is well-formed. -/
lemma Started.wf {context : ImportContext} {s : Linker} (h : Started context s) : s.WF where
  named := h.registered.named
  closed := by
    refine ⟨h.registered.nonempty, fun c v hv => ?_, fun m v hv => ?_, fun v bound hb => ?_⟩
    · rw [(h.registered.blank c).typeParameters] at hv
      cases hv
    · rw [Atlas.member_eq_default (by simp [h.registered.members])] at hv
      cases hv
    · rw [Atlas.typeVar_eq_default (by simp [h.registered.typeVars])] at hb
      cases hb
  undeclared entry hentry := by
    rw [h.undeclared] at hentry
    cases hentry

end Linker

end ClassAtlas
