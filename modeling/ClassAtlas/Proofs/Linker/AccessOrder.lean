import ClassAtlas.Proofs.Batch.CodeUnits
import ClassAtlas.Proofs.Linker.Spelling
import Mathlib.Data.List.Sort

/-!
# The order of accesses

Code units get their accesses in the order in which they were added.  Each gets what the context
has for its key, but an access is left out if an earlier one of the same code unit has its kind, the
full name of its target and its line.

* `Use.key` — what the accesses of a code unit are told apart by.
* `RecordedAccesses` — a code unit has the accesses on record, in order, less those left out.
* `Atlas.memberIds` — the members in the order in which they were added.
* `flatMap_memberIds` — members that add nothing to a list can be passed over.
* `accesses_recorded_in_order` — **the accesses of an atlas are those on record, code unit after
  code unit**.
-/

namespace ClassAtlas

/-- The members of an atlas, in the order in which they were added. -/
def Atlas.memberIds (a : Atlas) : List MemberId :=
  (List.range a.members.size).map MemberId.mk

namespace Linker

variable {s t : Linker} {context : ImportContext} {options : ImportOptions} {files : Files}

/-! ## One code unit -/

/-- What the accesses of a code unit are told apart by: the kind, the full name of the target and
the line. -/
def Use.key (use : Use) : AccessKind × String × Nat :=
  (use.1, use.2.1.fullName, use.2.2)

/-- The accesses of a code unit are those that a context has for its key, in the order in which the
context has them, less those with the kind, the full name of the target and the line of an earlier
one. -/
structure RecordedAccesses (context : ImportContext) (t : Linker) (m : MemberId) : Prop where
  kept : ∃ uses, List.Forall₂ (LinkedUse t) (context.uses (t.atlas.unitKey m)) uses ∧
    (t.atlas.accessesFrom m).map Access.use = firsts Use.key uses
  origin : ∀ x ∈ t.atlas.accessesFrom m, x.origin = m
  distinct : (t.atlas.accessesFrom m).Pairwise fun x y => x.use.key ≠ y.use.key
  represented : ∀ r ∈ context.uses (t.atlas.unitKey m), ∃ x ∈ t.atlas.accessesFrom m,
    Represents t r x

lemma AccessesLinked.recordedAccesses {m : MemberId} (h : AccessesLinked t m (t.atlas.unitKey m)) :
    RecordedAccesses t.context t m := by
  have ⟨uses, huses, haccesses⟩ := h
  have huse : (t.atlas.accessesFrom m).map Access.use = distinctUses uses := by
    rw [accessesFrom_eq, List.map_map, eq_comm, ← List.forall₂_eq_eq_eq,
      List.forall₂_map_right_iff]
    refine haccesses.imp fun use i ⟨_, haccess⟩ => ?_
    rw [Function.comp_apply, haccess]
    rfl
  refine ⟨⟨uses, huses, huse.trans (distinctBy_eq_firsts ..)⟩, fun x hx => ?_, ?_, fun r hr => ?_⟩
  · obtain ⟨i, hi, rfl⟩ := List.mem_map.mp hx
    obtain ⟨use, -, -, haccess⟩ := haccesses.exists_left hi
    rw [haccess]
    rfl
  · have hdistinct : (distinctUses uses).Pairwise fun x y => x.key ≠ y.key :=
      pairwise_distinctBy ..
    rwa [← huse, List.pairwise_map] at hdistinct
  · obtain ⟨i, hi, hrepresents⟩ := h.represented hr
    exact ⟨t.atlas.access i, List.mem_map_of_mem hi, hrepresents⟩

/-! ## All code units -/

/-- Items that add nothing to a list can be left out. -/
lemma flatMap_filter_of_eq_nil {α β : Type} {f : α → List β} {keep : α → Bool}
    (hf : ∀ x, keep x = false → f x = []) (items : List α) :
    (items.filter keep).flatMap f = items.flatMap f := by
  induction items with
  | nil => rfl
  | cons x rest ih =>
      rw [List.filter_cons, List.flatMap_cons]
      split_ifs with hx
      · rw [List.flatMap_cons, ih]
      · rw [hf x (by simpa using hx), ih, List.nil_append]

/-- Members that add nothing to a list can be passed over. -/
lemma flatMap_memberIds {α : Type} {a : Atlas} {ids : List MemberId} {f : MemberId → List α}
    (hids : ids.Pairwise fun m n => m.index < n.index)
    (hlt : ∀ m ∈ ids, m.index < a.members.size) (hf : ∀ m ∉ ids, f m = []) :
    a.memberIds.flatMap f = ids.flatMap f := by
  have : Std.Irrefl fun m n : MemberId => m.index < n.index := ⟨fun _ => lt_irrefl _⟩
  have : Std.Antisymm fun m n : MemberId => m.index < n.index :=
    ⟨fun _ _ h h' => absurd h' h.asymm⟩
  have hall : a.memberIds.Pairwise fun m n => m.index < n.index :=
    List.pairwise_map.mpr List.pairwise_lt_range
  have hfilter : a.memberIds.filter (· ∈ ids) = ids := by
    refine List.Pairwise.eq_of_mem_iff (hall.filter _) hids fun m => ?_
    simp only [List.mem_filter, Atlas.memberIds, List.mem_map, List.mem_range, decide_eq_true_eq]
    exact ⟨And.right, fun hm => ⟨⟨m.index, hlt m hm, rfl⟩, hm⟩⟩
  calc a.memberIds.flatMap f
      = (a.memberIds.filter (· ∈ ids)).flatMap f :=
        (flatMap_filter_of_eq_nil (fun m hm => hf m (by simpa using hm)) _).symm
    _ = ids.flatMap f := by rw [hfilter]

/-- A linker has reached the second phase if it can link accesses. -/
lemma phase_of_perform_accesses (hok : (s.perform .accesses).1 = .ok none) :
    s.phase = .members := by
  by_contra hphase
  rw [perform_of_ne (r := .accesses) rfl hphase] at hok
  cases hok

/-- No code unit has accesses before the last phase. -/
lemma Sound.accesses_eq_nil (hs : Sound s) (hphase : s.phase ≠ .accesses) (m : MemberId) :
    (s.atlas.member m).accesses = [] := by
  refine List.eq_nil_iff_forall_not_mem.mpr fun i hi => ?_
  have hm := lt_of_not_isField (Member.isField_of_mem_accesses hi)
  have hlt := (hs.integral.inRange.member m hm).access_lt hi
  simp [Atlas.extent, hs.valid.accessless hphase] at hlt

/-- Linking accesses changes no key. -/
lemma Gathers.unitKey {A : Set MemberId} (h : Gathers A s t) {m : MemberId}
    (hm : (s.atlas.member m).owner.index < s.atlas.classes.size) :
    t.atlas.unitKey m = s.atlas.unitKey m := by
  have hunit := h.unit m
  rw [Atlas.unitKey, Atlas.unitKey, hunit.sameMember.owner, hunit.name, hunit.descriptor,
    h.steps.frame.className hm]

/-- **The last phase gives each code unit the accesses on record for it**, one code unit after the
other. -/
theorem Sound.recordedAccesses (hs : Sound s) (hok : (s.perform .accesses).1 = .ok none) :
    let t := (s.perform .accesses).2
    t.atlas.accesses.toList = t.atlas.memberIds.flatMap t.atlas.accessesFrom ∧
    (∀ m, (t.atlas.member m).isSigned = true → RecordedAccesses s.context t m) ∧
    ∀ m, (t.atlas.member m).isSigned = false → t.atlas.accessesFrom m = [] := by
  intro t
  have hphase := phase_of_perform_accesses hok
  have hbody : accessesBody { s with phase := .accesses } = .ok () t :=
    body_of_perform (r := .accesses) rfl hs.valid hphase (by simp [hok])
  obtain ⟨hcompletes, hlinked, hlist⟩ := gathers_of_accesses hs.valid hphase hbody
  have hqueue := hs.valid.queue hphase
  have hunit : ∀ m, SameUnit (s.atlas.member m) (t.atlas.member m) := hcompletes.unit
  have hnone : ∀ m ∉ s.pending.map Prod.fst, t.atlas.accessesFrom m = [] := fun m hm => by
    rw [accessesFrom_eq, hcompletes.member m hm]
    exact List.map_eq_nil_iff.mpr (hs.accesses_eq_nil (by simp [hphase]) m)
  refine ⟨?_, fun m hm => ?_, fun m hm => hnone m fun hmem => ?_⟩
  · rw [hlist, flatMap_memberIds (List.pairwise_map.mpr hqueue.inOrder) (fun m hm => ?_) hnone,
      List.flatMap_map]
    obtain ⟨e, he, rfl⟩ := List.mem_map.mp hm
    rw [hcompletes.size]
    exact lt_of_isSigned (hqueue.entry e he).isSigned
  · rw [(hunit m).isSigned] at hm
    obtain ⟨e, he, rfl⟩ := List.mem_map.mp (hqueue.signed m hm)
    have hentry := hqueue.entry e he
    have hkey : t.atlas.unitKey e.1 = e.2 :=
      (Gathers.unitKey hcompletes.toGathers hentry.owner).trans hentry.key.symm
    have hcontext : t.context = s.context := hcompletes.steps.frame.context
    rw [← hcontext]
    exact (hkey ▸ hlinked e he : AccessesLinked t e.1 _).recordedAccesses
  · obtain ⟨e, he, rfl⟩ := List.mem_map.mp hmem
    rw [(hunit e.1).isSigned, (hqueue.entry e he).isSigned] at hm
    cases hm

/-- **The accesses of an atlas are those on record, code unit after code unit** in the order in
which these were added, once the last phase succeeded.  A code unit whose signature could not be
linked has none; if no phase failed, there is no such code unit. -/
theorem accesses_recorded_in_order (hstart : start context options files = .ok s)
    (rs : List Request) (hok : ((s.run rs).2.perform .accesses).1 = .ok none) :
    let t := ((s.run rs).2.perform .accesses).2
    t.atlas.accesses.toList = t.atlas.memberIds.flatMap t.atlas.accessesFrom ∧
    (∀ m, (t.atlas.member m).isSigned = true → RecordedAccesses context t m) ∧
    (∀ m, (t.atlas.member m).isSigned = false → t.atlas.accessesFrom m = []) ∧
    ((∀ e ∈ s.exchanges rs, e.1.phase?.isSome → ∀ name, e.2 ≠ .error (.invalidTypeName name)) →
      ∀ m, (t.atlas.member m).isField = false → (t.atlas.member m).isSigned = true) := by
  intro t
  have hs := start_eq_ok hstart
  obtain ⟨hlist, hsigned, hunsigned⟩ := (run_sound hs.sound rs).recordedAccesses hok
  rw [context_run hs.valid, hs.context] at hsigned
  refine ⟨hlist, hsigned, hunsigned, fun hnone => ?_⟩
  exact (perform_tracked (run_tracked hs.tracked rs hnone) .accesses (by simp [hok])).signed

/-- A method that reads a field, calls a method twice on the same line and once more on the next. -/
def repeatedCalls : Record.CodeUnit :=
  { name := "m"
    fieldAccesses := [{ owner := "a.B", name := "f", type := "int", use := .get, line := 7 }]
    methodCalls := [{ owner := "a.B", name := "run", line := 7 },
      { owner := "a.B", name := "run", line := 7 }, { owner := "a.B", name := "run", line := 8 }] }

def repeatedBatch : Batch :=
  ⟨[{ name := "a.A", methods := [repeatedCalls] }]⟩

/-- What an access is told apart by, from its record. -/
lemma LinkedUse.key_eq {r : Record.Use} {use : Use} (h : LinkedUse t r use) (ht : t.WF)
    (fullName : String) (hnames : ∀ n ∈ r.names, Canonical n) (htarget : r.Targets fullName) :
    use.key = (r.kind, fullName, r.line) := by
  have hrepresents : Represents t r (accessOf default "" use default) := ⟨use, h, rfl⟩
  have haccess := hrepresents.access ht hnames
  exact Prod.ext haccess.kind (Prod.ext (haccess.target.unique htarget) haccess.line)

theorem accesses_recorded_in_order_repeatedBatch :
    ∃ s m, start repeatedBatch.context {} .none = .ok s ∧
      ((s.run [.hierarchy, .members]).2.perform .accesses).1 = .ok none ∧
      let a := ((s.run [.hierarchy, .members]).2.perform .accesses).2.atlas
      a.accesses.toList = a.memberIds.flatMap a.accessesFrom ∧
      a.unitKey m = ⟨"a.A", "m", "()V"⟩ ∧
      (a.accessesFrom m).map (·.use.key) = [(.fieldAccess .get, "a.B.f", 7),
        (.methodCall, "a.B.run()", 7), (.methodCall, "a.B.run()", 8)] := by
  have horderly : repeatedBatch.Orderly :=
    Batch.orderly_of_plain (by decide +kernel) (by decide +kernel) (by decide +kernel)
      (by decide +kernel) (by decide +kernel)
  obtain ⟨s, t, u, v, hstart, hlinked⟩ := exists_linked repeatedBatch (by decide +kernel)
  obtain ⟨-, -, hv, -⟩ := hlinked.valid (start_eq_ok hstart)
  obtain ⟨hrun, -⟩ := run_of_linked (start_eq_ok hstart) hlinked
  have hanswers := congrArg Prod.fst hrun
  have hok : ((s.run [.hierarchy, .members]).2.perform .accesses).1 = .ok none :=
    (List.cons.inj (List.cons.inj (List.cons.inj hanswers).2).2).1
  have hend : ((s.run [.hierarchy, .members]).2.perform .accesses).2 = v := congrArg Prod.snd hrun
  obtain ⟨hlist, hsigned, hunsigned, -⟩ := accesses_recorded_in_order hstart _ hok
  rw [hend] at hlist hsigned hunsigned
  obtain ⟨c, hc, hunits⟩ := codeUnits_completed horderly
    ((link_eq_ok hstart).mpr ⟨t, u, v, hlinked, rfl⟩) (List.mem_cons_self ..)
  obtain ⟨m, ms, hunit, -⟩ := List.forall₂_cons_left_iff.mp hunits
  have hkey : v.atlas.unitKey m = ⟨"a.A", "m", "()V"⟩ := hunit.key.trans (by decide +kernel)
  have huses : repeatedBatch.context.uses (v.atlas.unitKey m) = repeatedCalls.uses := by
    rw [hkey]
    rfl
  -- what is recorded for it is represented, so the method has its signature
  have hm : (v.atlas.member m).isSigned = true := by
    by_contra hnot
    obtain ⟨r, hr⟩ : ∃ r, r ∈ repeatedCalls.uses := ⟨_, List.mem_cons_self ..⟩
    obtain ⟨x, hx, -⟩ := hunit.represented r (huses ▸ hr)
    rw [hunsigned m (by simpa using hnot)] at hx
    cases hx
  obtain ⟨uses, hlinkedUses, hkept⟩ := (hsigned m hm).kept
  rw [huses] at hlinkedUses
  have hkeys := hlinkedUses.imp_mem fun r hr use _ (h : LinkedUse v r use) name =>
    h.key_eq hv.wf name fun n hn =>
      horderly.canonical n (Batch.mem_names_of_mentions (.use (huses ▸ hr) hn))
  obtain ⟨f, _, hf, hcalls, rfl⟩ := List.forall₂_cons_left_iff.mp hkeys
  obtain ⟨x, _, hx, hrest, rfl⟩ := List.forall₂_cons_left_iff.mp hcalls
  obtain ⟨y, _, hy, hlast, rfl⟩ := List.forall₂_cons_left_iff.mp hrest
  obtain ⟨z, _, hz, hnil, rfl⟩ := List.forall₂_cons_left_iff.mp hlast
  obtain rfl := List.forall₂_nil_left_iff.mp hnil
  have hfield : "a.B.f" = fieldName "a.B" "f" := by decide +kernel
  have hmethod : "a.B.run()" = codeUnitName "a.B" "run" [] := by decide +kernel
  have hcall : ∀ line, (Record.Use.call .methodCall
      { owner := "a.B", name := "run", line := line }).Targets "a.B.run()" :=
    fun _ => ⟨[], .nil, hmethod⟩
  have hf : f.key = (.fieldAccess .get, "a.B.f", 7) := hf _ hfield
  have hx : x.key = (.methodCall, "a.B.run()", 7) := hx _ (hcall 7)
  have hy : y.key = (.methodCall, "a.B.run()", 7) := hy _ (hcall 7)
  have hz : z.key = (.methodCall, "a.B.run()", 8) := hz _ (hcall 8)
  refine ⟨s, m, hstart, hok, ?_⟩
  rw [hend]
  refine ⟨hlist, hkey, ?_⟩
  calc (v.atlas.accessesFrom m).map (·.use.key)
      = ((v.atlas.accessesFrom m).map Access.use).map Use.key := by rw [List.map_map]; rfl
    _ = _ := by
      rw [hkept]
      simp [firsts, List.zipIdx, hf, hx, hy, hz]

end Linker

end ClassAtlas
