import ClassAtlas.PackagePattern.Basic
import Mathlib.Data.List.Basic
import Mathlib.Tactic

/-!
# What the search finds

The search for a derivation works backwards, on sets of places, and then walks forward along places
that are known to lead on.  It finds a derivation whenever there is one, so that whether a name
matches is a question about `Expr.Derives` alone.

* `Expr.Leads` — an expression derives a part of a text from a place to a goal.
* `Expr.mem_reach` — **the places worked out backwards are those that lead to a goal**.
* `Expr.exists_follow` — the walk from such a place comes to a goal.
* `Expr.search_isSome_iff`, `selects_iff` — a name matches exactly if a part of it is derived.
* `Expr.DerivesAll`, `Expr.derivesAll_whole` — what a sequence of expressions derives.
-/

namespace ClassAtlas.PackagePattern

/-! ## What an expression derives -/

namespace Expr

variable {e f : Expr} {before part after : List Char} {set : CharSet}

@[simp]
lemma derives_empty : Derives .empty before part after ↔ part = [] := by
  constructor
  · rintro ⟨⟩
    rfl
  · rintro rfl
    exact .empty

@[simp]
lemma derives_one : Derives (.one set) before part after ↔ ∃ c, set.has c = true ∧ part = [c] := by
  constructor
  · rintro ⟨⟩
    exact ⟨_, ‹_›, rfl⟩
  · rintro ⟨c, hc, rfl⟩
    exact .one hc

@[simp]
lemma derives_many : Derives (.many set) before part after ↔ ∀ c ∈ part, set.has c = true := by
  constructor
  · rintro ⟨⟩
    assumption
  · exact .many

@[simp]
lemma derives_seq :
    Derives (.seq e f) before part after ↔ ∃ first second, part = first ++ second ∧
      Derives e before first (second ++ after) ∧ Derives f (before ++ first) second after := by
  constructor
  · rintro ⟨⟩
    exact ⟨_, _, rfl, ‹_›, ‹_›⟩
  · rintro ⟨first, second, rfl, hfirst, hsecond⟩
    exact .seq hfirst hsecond

@[simp]
lemma derives_alt :
    Derives (.alt e f) before part after ↔
      Derives e before part after ∨ Derives f before part after := by
  constructor
  · rintro (_ | _)
    · exact Or.inl ‹_›
    · exact Or.inr ‹_›
  · rintro (h | h)
    · exact .altFirst h
    · exact .altSecond h

@[simp]
lemma derives_group {index : ℕ} :
    Derives (.group index e) before part after ↔ Derives e before part after := by
  constructor
  · rintro ⟨⟩
    assumption
  · exact .group

@[simp]
lemma derives_start : Derives .start before part after ↔ before = [] ∧ part = [] := by
  constructor
  · rintro ⟨⟩
    exact ⟨rfl, rfl⟩
  · rintro ⟨rfl, rfl⟩
    exact .start

@[simp]
lemma derives_finish : Derives .finish before part after ↔ part = [] ∧ after = [] := by
  constructor
  · rintro ⟨⟩
    exact ⟨rfl, rfl⟩
  · rintro ⟨rfl, rfl⟩
    exact .finish

end Expr

/-! ## Sets of places -/

section Places

variable {text : Array Char} {goal goal' : Goal} {set : CharSet} {place size : ℕ}

/-- The marks of a goal are on its places. -/
lemma Goal.marks_getD (goal : Goal) (size place : ℕ) :
    (goal.marks size)[place]?.getD false = true ↔ place ∈ goal ∧ place ≤ size := by
  have hfold : ∀ (goal : Goal) (marks : Array Bool), marks.size = size + 1 →
      ((goal.foldl (fun marks place => marks.setIfInBounds place true) marks)[place]?.getD false
          = true ↔ marks[place]?.getD false = true ∨ place ∈ goal ∧ place ≤ size) := by
    intro goal
    induction goal with
    | nil => simp
    | cons stop goal ih =>
        intro marks hsize
        rw [List.foldl_cons, ih _ (by simpa using hsize), List.mem_cons]
        by_cases hstop : stop = place
        · subst hstop
          by_cases hle : stop ≤ size
          · have hlt : stop < marks.size := by omega
            simp [hle, hlt]
          · have hout : ¬ stop < marks.size := by omega
            simp [hle, hout]
        · have hne : ¬ place = stop := fun h => hstop h.symm
          simp [hstop, hne]
  rw [Goal.marks, hfold _ _ (by simp)]
  have hnone : (Array.replicate (size + 1) false)[place]?.getD false = false := by
    rcases h : (Array.replicate (size + 1) false)[place]? with _ | b
    · rfl
    · exact Array.eq_of_mem_replicate (Array.mem_of_getElem? h)
  simp [hnone]

@[simp]
lemma Goal.mem_union : place ∈ Goal.union size goal goal' ↔ place ∈ goal ∨ place ∈ goal' := by
  have hmarked := Goal.marks_getD goal size place
  simp only [Goal.union, List.mem_append, List.mem_filter, Bool.not_eq_true']
  constructor
  · rintro (h | ⟨h, -⟩)
    · exact Or.inl h
    · exact Or.inr h
  · rintro (h | h)
    · exact Or.inl h
    · by_cases hmem : place ∈ goal
      · exact Or.inl hmem
      · refine Or.inr ⟨h, Bool.eq_false_iff.mpr fun hmark => hmem (hmarked.mp hmark).1⟩

lemma mem_beforeOne :
    place ∈ beforeOne set text goal ↔ place + 1 ∈ goal ∧ (text[place]?).any set.has = true := by
  rw [beforeOne, List.mem_filterMap]
  constructor
  · rintro ⟨stop, hstop, h⟩
    cases stop with
    | zero => cases h
    | succ stop =>
        simp only [Option.ite_none_right_eq_some, Option.some_inj] at h
        obtain ⟨hhas, rfl⟩ := h
        exact ⟨hstop, hhas⟩
  · rintro ⟨hstop, hhas⟩
    exact ⟨place + 1, hstop, by simp [hhas]⟩

/-- A run of characters of a set leads from a place to a goal. -/
def RunsTo (set : CharSet) (text : Array Char) (goal : Goal) (place : ℕ) : Prop :=
  ∃ stop ∈ goal, place ≤ stop ∧ ∀ k, place ≤ k → k < stop → (text[k]?).any set.has = true

/-- A run is nothing, or a character and a run. -/
lemma runsTo_iff :
    RunsTo set text goal place ↔
      place ∈ goal ∨ (text[place]?).any set.has = true ∧ RunsTo set text goal (place + 1) := by
  constructor
  · rintro ⟨stop, hstop, hle, hrun⟩
    rcases hle.eq_or_lt with rfl | hlt
    · exact Or.inl hstop
    · exact Or.inr ⟨hrun place le_rfl hlt, stop, hstop, hlt, fun k hk => hrun k (by omega)⟩
  · rintro (hstop | ⟨hhas, stop, hstop, hle, hrun⟩)
    · exact ⟨place, hstop, le_rfl, fun k hk hlt => by omega⟩
    · refine ⟨stop, hstop, by omega, fun k hk hlt => ?_⟩
      rcases hk.eq_or_lt with rfl | hk
      · exact hhas
      · exact hrun k hk hlt

/-- The places of runs from `a` on, with `a` in front if it is one of them. -/
structure RunPlaces (set : CharSet) (text : Array Char) (goal : Goal) (a : ℕ) (found : Goal) :
    Prop where
  mem : ∀ p, p ∈ found ↔ a ≤ p ∧ RunsTo set text goal p
  head : found.head? = some a ↔ RunsTo set text goal a

variable {a : ℕ} {found : Goal}

lemma runPlaces_nil (hgoal : ∀ stop ∈ goal, stop ≤ text.size) (ha : text.size < a) :
    RunPlaces set text goal a [] := by
  have hnone : ∀ p, a ≤ p → ¬ RunsTo set text goal p := by
    rintro p hp ⟨stop, hstop, hle, -⟩
    have := hgoal stop hstop
    omega
  exact ⟨fun p => by simpa using hnone p, by simpa using hnone a le_rfl⟩

lemma RunPlaces.cons (h : RunPlaces set text goal (a + 1) found)
    (hruns : RunsTo set text goal a) : RunPlaces set text goal a (a :: found) := by
  refine ⟨fun p => ?_, by simpa using hruns⟩
  rw [List.mem_cons, h.mem]
  constructor
  · rintro (rfl | ⟨hp, hr⟩)
    · exact ⟨le_rfl, hruns⟩
    · exact ⟨by omega, hr⟩
  · rintro ⟨hp, hr⟩
    rcases hp.eq_or_lt with rfl | hp
    · exact Or.inl rfl
    · exact Or.inr ⟨hp, hr⟩

lemma RunPlaces.skip (h : RunPlaces set text goal (a + 1) found)
    (hnot : ¬ RunsTo set text goal a) : RunPlaces set text goal a found := by
  refine ⟨fun p => ?_, fun hfirst => ?_, fun hr => absurd hr hnot⟩
  · rw [h.mem]
    constructor
    · rintro ⟨hp, hr⟩
      exact ⟨by omega, hr⟩
    · rintro ⟨hp, hr⟩
      rcases hp.eq_or_lt with rfl | hp
      · exact absurd hr hnot
      · exact ⟨hp, hr⟩
  · have := (h.mem a).mp (List.mem_of_mem_head? hfirst)
    omega

/-- The places of runs are found from the end backwards.  The place found last is the first of the
list, which tells whether the next place is one of them. -/
lemma mem_beforeRun (hgoal : ∀ stop ∈ goal, stop ≤ text.size) :
    place ∈ beforeRun set text goal ↔ RunsTo set text goal place := by
  set step : ℕ → Goal → Goal := fun place found =>
    if (goal.marks text.size)[place]?.getD false ||
      (found.head? == some (place + 1) && (text[place]?).any set.has)
    then place :: found else found with hstep
  have hfold : ∀ m a, a + m = text.size + 1 →
      RunPlaces set text goal a ((List.range' a m).foldr step []) := by
    intro m
    induction m with
    | zero =>
        intro a ha
        exact runPlaces_nil hgoal (by omega)
    | succ m ih =>
        intro a ha
        have hrest := ih (a + 1) (by omega)
        rw [List.range'_succ, List.foldr_cons]
        set found := (List.range' (a + 1) m).foldr step []
        have hcond : ((goal.marks text.size)[a]?.getD false ||
            (found.head? == some (a + 1) && (text[a]?).any set.has)) = true ↔
              RunsTo set text goal a := by
          rw [runsTo_iff, Bool.or_eq_true, Goal.marks_getD, Bool.and_eq_true, beq_iff_eq,
            hrest.head, and_iff_left (by omega : a ≤ text.size), and_comm (b := _ = true)]
        rw [hstep]
        dsimp only
        split_ifs with h
        · exact hrest.cons (hcond.mp h)
        · exact hrest.skip fun hr => h (hcond.mpr hr)
  have hall := (hfold (text.size + 1) 0 (by omega)).mem place
  rw [← List.range_eq_range'] at hall
  exact hall.trans (and_iff_right (Nat.zero_le place))

end Places

/-! ## Places that lead to a goal -/

namespace Expr

variable {e : Expr} {text : Array Char} {goal : Goal} {place : ℕ}

/-- The expression derives a part of the text that starts at the place and ends at the goal. -/
def Leads (e : Expr) (text : Array Char) (goal : Goal) (place : ℕ) : Prop :=
  ∃ before part after, text.toList = before ++ (part ++ after) ∧ before.length = place ∧
    before.length + part.length ∈ goal ∧ e.Derives before part after

lemma Leads.le_size (h : e.Leads text goal place) : place ≤ text.size := by
  obtain ⟨before, part, after, htext, rfl, -⟩ := h
  have := congrArg List.length htext
  simp only [Array.length_toList, List.length_append] at this
  omega

/-- A place of a text cuts it in two. -/
lemma exists_cut (h : place ≤ text.size) :
    ∃ before after, text.toList = before ++ after ∧ before.length = place :=
  ⟨text.toList.take place, text.toList.drop place, (List.take_append_drop ..).symm, by simpa⟩

lemma getElem?_cut {before after : List Char} (htext : text.toList = before ++ after) (k : ℕ) :
    text[before.length + k]? = after[k]? := by
  rw [← Array.getElem?_toList, htext, List.getElem?_append_right (by omega)]
  congr 1
  omega

lemma leads_one_iff {set : CharSet} (hgoal : ∀ stop ∈ goal, stop ≤ text.size) :
    (Expr.one set).Leads text goal place ↔
      place + 1 ∈ goal ∧ (text[place]?).any set.has = true := by
  constructor
  · rintro ⟨before, part, after, htext, rfl, hstop, h⟩
    obtain ⟨c, hc, rfl⟩ := derives_one.mp h
    have hget : text[before.length]? = some c := getElem?_cut htext 0
    exact ⟨hstop, by simpa [hget] using hc⟩
  · rintro ⟨hstop, hhas⟩
    have hle : place ≤ text.size := Nat.le_of_succ_le (hgoal _ hstop)
    obtain ⟨before, rest, htext, rfl⟩ := exists_cut hle
    rw [show text[before.length]? = rest[0]? from getElem?_cut htext 0] at hhas
    cases rest with
    | nil => cases hhas
    | cons c after => exact ⟨before, [c], after, htext, rfl, hstop, .one (by simpa using hhas)⟩

lemma leads_many_iff {set : CharSet} (hgoal : ∀ stop ∈ goal, stop ≤ text.size) :
    (Expr.many set).Leads text goal place ↔ RunsTo set text goal place := by
  constructor
  · rintro ⟨before, part, after, htext, rfl, hstop, h⟩
    refine ⟨_, hstop, by omega, fun k hk hlt => ?_⟩
    obtain ⟨k, rfl⟩ := Nat.exists_eq_add_of_le hk
    have hlt : k < part.length := by omega
    rw [getElem?_cut htext, List.getElem?_append_left hlt, List.getElem?_eq_getElem hlt]
    exact derives_many.mp h _ (List.getElem_mem hlt)
  · rintro ⟨stop, hstop, hle, hrun⟩
    obtain ⟨n, rfl⟩ := Nat.exists_eq_add_of_le hle
    have hsize := hgoal _ hstop
    have hplace : place ≤ text.size := by omega
    obtain ⟨before, rest, htext, rfl⟩ := exists_cut hplace
    have hlen : before.length + rest.length = text.size := by
      simpa using (congrArg List.length htext).symm
    refine ⟨before, rest.take n, rest.drop n, by rw [htext, List.take_append_drop], rfl, ?_, ?_⟩
    · rwa [List.length_take, min_eq_left (by omega)]
    · refine .many fun c hc => ?_
      obtain ⟨k, hk, rfl⟩ := List.mem_take_iff_getElem.mp hc
      have := hrun (before.length + k) (by omega) (by omega)
      rwa [getElem?_cut htext, List.getElem?_eq_getElem (by omega)] at this

/-- **The places worked out backwards are those that lead to the goal.** -/
theorem mem_reach (e : Expr) (hgoal : ∀ stop ∈ goal, stop ≤ text.size) :
    place ∈ e.reach text goal ↔ e.Leads text goal place := by
  induction e generalizing goal place with
  | empty =>
      rw [reach]
      constructor
      · intro h
        obtain ⟨before, after, htext, rfl⟩ := exists_cut (hgoal _ h)
        exact ⟨before, [], after, htext, rfl, h, .empty⟩
      · rintro ⟨before, part, after, -, rfl, hstop, h⟩
        rwa [derives_empty.mp h] at hstop
  | one set => rw [reach, mem_beforeOne, leads_one_iff hgoal]
  | many set => rw [reach, mem_beforeRun hgoal, leads_many_iff hgoal]
  | seq first second ihfirst ihsecond =>
      rw [reach, ihfirst fun stop hstop => ((ihsecond hgoal).mp hstop).le_size]
      constructor
      · rintro ⟨before, part, rest, htext, rfl, hmiddle, h⟩
        obtain ⟨before', part', after, htext', hlen, hstop, h'⟩ := (ihsecond hgoal).mp hmiddle
        rw [htext, ← List.append_assoc] at htext'
        obtain ⟨rfl, rfl⟩ := List.append_inj htext' (by simp [hlen])
        refine ⟨before, part ++ part', after, by rw [htext, List.append_assoc], rfl, ?_,
          .seq h h'⟩
        rwa [List.length_append, ← add_assoc, ← List.length_append]
      · rintro ⟨before, _, after, htext, rfl, hstop, h⟩
        obtain ⟨part, part', rfl, h, h'⟩ := derives_seq.mp h
        refine ⟨before, part, part' ++ after, by rw [htext, List.append_assoc], rfl, ?_, h⟩
        refine (ihsecond hgoal).mpr ⟨before ++ part, part', after, by simp [htext], by simp, ?_, h'⟩
        simpa [add_assoc] using hstop
  | alt first second ihfirst ihsecond =>
      rw [reach, Goal.mem_union, ihfirst hgoal, ihsecond hgoal]
      simp only [Leads, derives_alt, and_or_left, exists_or]
  | group index body ih => simp only [reach, ih hgoal, Leads, derives_group]
  | start =>
      rw [reach]
      constructor
      · intro h
        split_ifs at h with hzero
        · obtain rfl := List.mem_singleton.mp h
          exact ⟨[], [], text.toList, rfl, rfl, by simpa using hzero, .start⟩
        · cases h
      · rintro ⟨before, part, after, -, rfl, hstop, h⟩
        obtain ⟨rfl, rfl⟩ := derives_start.mp h
        rw [if_pos (by simpa using hstop)]
        exact List.mem_singleton_self _
  | finish =>
      rw [reach]
      constructor
      · intro h
        split_ifs at h with hend
        · obtain rfl := List.mem_singleton.mp h
          exact ⟨text.toList, [], [], by simp, by simp, by simpa using hend, .finish⟩
        · cases h
      · rintro ⟨before, part, after, htext, rfl, hstop, h⟩
        obtain ⟨rfl, rfl⟩ := derives_finish.mp h
        have hsize : before.length = text.size := by
          simpa using (congrArg List.length htext).symm
        rw [if_pos (by simpa [hsize] using hstop), hsize]
        exact List.mem_singleton_self _

/-! ## The walk -/

/-- A run that leads to the goal has a longest one beside it. -/
lemma exists_longestRun? {set : CharSet} (h : (Expr.many set).Leads text goal place) :
    ∃ stop ∈ goal, longestRun? set text goal place = some stop := by
  obtain ⟨before, part, after, htext, rfl, hstop, hpart⟩ := h
  have hrest : (text.extract before.length text.size).toList = part ++ after := by
    rw [Array.toList_extract, ← Array.length_toList, htext]
    simp
  have hrun : part.length ≤ ((part ++ after).takeWhile set.has).length := by
    rw [List.takeWhile_append_of_pos (derives_many.mp hpart), List.length_append]
    omega
  set stops := goal.filter fun stop => before.length ≤ stop &&
    stop ≤ before.length + ((part ++ after).takeWhile set.has).length with hstops
  have hmem : before.length + part.length ∈ stops := by
    rw [hstops, List.mem_filter]
    exact ⟨hstop, by simpa using hrun⟩
  obtain ⟨stop, hmax⟩ := Option.isSome_iff_exists.mp (List.isSome_max?_of_mem hmem)
  refine ⟨stop, (List.mem_filter.mp (List.max?_mem hmax)).1, ?_⟩
  rw [longestRun?, hrest]
  exact hmax

/-- **A walk from a place that leads to the goal comes to the goal.** -/
theorem exists_follow (e : Expr) (hgoal : ∀ stop ∈ goal, stop ≤ text.size) (t : Thread)
    (h : t.place ∈ e.reach text goal) : ∃ u, e.follow text goal t = some u ∧ u.place ∈ goal := by
  induction e generalizing goal t with
  | empty => exact ⟨t, rfl, h⟩
  | one set =>
      obtain ⟨hstop, hhas⟩ := mem_beforeOne.mp h
      exact ⟨_, if_pos hhas, hstop⟩
  | many set =>
      obtain ⟨stop, hstop, hrun⟩ := exists_longestRun? ((mem_reach _ hgoal).mp h)
      exact ⟨{ t with place := stop }, by rw [follow, hrun]; rfl, hstop⟩
  | seq first second ihfirst ihsecond =>
      have hmiddle : ∀ stop ∈ second.reach text goal, stop ≤ text.size :=
        fun stop hstop => ((mem_reach _ hgoal).mp hstop).le_size
      obtain ⟨u, hu, hplace⟩ := ihfirst hmiddle t h
      obtain ⟨v, hv, hend⟩ := ihsecond hgoal u hplace
      exact ⟨v, by rw [follow, hu, Option.bind_some, hv], hend⟩
  | alt first second ihfirst ihsecond =>
      rw [follow]
      split_ifs with hfirst
      · exact ihfirst hgoal t (List.contains_iff_mem.mp hfirst)
      · refine ihsecond hgoal t ((Goal.mem_union.mp h).resolve_left fun hmem => ?_)
        exact hfirst (List.contains_iff_mem.mpr hmem)
  | group index body ih =>
      obtain ⟨u, hu, hplace⟩ := ih hgoal t h
      exact ⟨u.capture t text index, by rw [follow, hu]; rfl, hplace⟩
  | start =>
      obtain ⟨before, part, after, -, hplace, hstop, hder⟩ := (mem_reach _ hgoal).mp h
      obtain ⟨rfl, rfl⟩ := derives_start.mp hder
      exact ⟨t, if_pos hplace.symm, hplace ▸ hstop⟩
  | finish =>
      obtain ⟨before, part, after, htext, hplace, hstop, hder⟩ := (mem_reach _ hgoal).mp h
      obtain ⟨rfl, rfl⟩ := derives_finish.mp hder
      have hsize : before.length = text.size := by simpa using (congrArg List.length htext).symm
      exact ⟨t, if_pos (hplace.symm.trans hsize), hplace ▸ hstop⟩

/-- **The search succeeds exactly if a part of the text is derived.** -/
theorem search_isSome_iff (e : Expr) (text : Array Char) :
    (e.search text).isSome = true ↔
      ∃ before part after, text.toList = before ++ (part ++ after) ∧
        e.Derives before part after := by
  have hgoal : ∀ stop ∈ List.range (text.size + 1), stop ≤ text.size := by
    intro stop hstop
    rw [List.mem_range] at hstop
    omega
  constructor
  · intro h
    obtain ⟨place, hmin⟩ :
        ∃ place, (e.reach text (List.range (text.size + 1))).min? = some place := by
      rcases hmin : (e.reach text (List.range (text.size + 1))).min? with _ | place
      · simp [search, hmin] at h
      · exact ⟨place, rfl⟩
    obtain ⟨before, part, after, htext, -, -, hder⟩ := (mem_reach e hgoal).mp (List.min?_mem hmin)
    exact ⟨before, part, after, htext, hder⟩
  · rintro ⟨before, part, after, htext, hder⟩
    have hsize : before.length + (part.length + after.length) = text.size := by
      simpa using (congrArg List.length htext).symm
    have hmem : before.length ∈ e.reach text (List.range (text.size + 1)) :=
      (mem_reach e hgoal).mpr ⟨before, part, after, htext, rfl, by rw [List.mem_range]; omega, hder⟩
    obtain ⟨place, hmin⟩ := Option.isSome_iff_exists.mp (List.isSome_min?_of_mem hmem)
    obtain ⟨u, hu, -⟩ := exists_follow e hgoal ⟨place, []⟩ (List.min?_mem hmin)
    simp [search, hmin, hu]

/-! ## Sequences and choices -/

variable {es fs : List Expr} {before part after : List Char}

/-- What a sequence of expressions derives: one part behind the other. -/
def DerivesAll : List Expr → List Char → List Char → List Char → Prop
  | [], _, part, _ => part = []
  | e :: es, before, part, after =>
    ∃ first rest, part = first ++ rest ∧ e.Derives before first (rest ++ after) ∧
      DerivesAll es (before ++ first) rest after

lemma derives_foldl_seq :
    (es.foldl .seq e).Derives before part after ↔
      ∃ first rest, part = first ++ rest ∧ e.Derives before first (rest ++ after) ∧
        DerivesAll es (before ++ first) rest after := by
  induction es generalizing e before part after with
  | nil => simp [DerivesAll]
  | cons f es ih =>
      simp only [List.foldl_cons, ih, derives_seq, DerivesAll]
      constructor
      · rintro ⟨_, rest, rfl, ⟨x, y, rfl, hx, hy⟩, hrest⟩
        exact ⟨x, y ++ rest, by simp, by simpa using hx, y, rest, rfl, hy, by simpa using hrest⟩
      · rintro ⟨x, _, rfl, hx, y, rest, rfl, hy, hrest⟩
        exact ⟨x ++ y, rest, by simp, ⟨x, y, rfl, by simpa using hx, hy⟩, by simpa using hrest⟩

lemma derives_sequence :
    (reading.sequence es).Derives before part after ↔ DerivesAll es before part after := by
  rw [show reading.sequence es = es.foldl .seq .empty from rfl, derives_foldl_seq]
  simp

lemma derivesAll_append :
    DerivesAll (es ++ fs) before part after ↔
      ∃ first rest, part = first ++ rest ∧ DerivesAll es before first (rest ++ after) ∧
        DerivesAll fs (before ++ first) rest after := by
  induction es generalizing before part with
  | nil => simp [DerivesAll]
  | cons e es ih =>
      simp only [List.cons_append, DerivesAll, ih]
      constructor
      · rintro ⟨x, _, rfl, hx, y, rest, rfl, hy, hrest⟩
        exact ⟨x ++ y, rest, by simp, ⟨x, y, rfl, by simpa using hx, hy⟩, by simpa using hrest⟩
      · rintro ⟨_, rest, rfl, ⟨x, y, rfl, hx, hy⟩, hrest⟩
        exact ⟨x, y ++ rest, by simp, by simpa using hx, y, rest, rfl, hy, by simpa using hrest⟩

lemma derivesAll_singleton :
    DerivesAll [e] before part after ↔ e.Derives before part after := by
  simp [DerivesAll]

/-- A choice derives what one of its branches does. -/
lemma derives_ofBranches (h : es ≠ []) :
    (ofBranches es).Derives before part after ↔ ∃ e ∈ es, e.Derives before part after := by
  induction es with
  | nil => exact absurd rfl h
  | cons e es ih =>
      cases es with
      | nil => simp [ofBranches]
      | cons f es =>
          rw [show ofBranches (e :: f :: es) = .alt e (ofBranches (f :: es)) from rfl, derives_alt,
            ih (by simp)]
          simp

/-- What stands between the start and the end of a name derives all of it. -/
lemma derivesAll_whole :
    DerivesAll (.start :: es ++ [.finish]) before part after ↔
      before = [] ∧ after = [] ∧ DerivesAll es [] part [] := by
  simp only [List.cons_append, DerivesAll, derivesAll_append, derives_start, derives_finish]
  constructor
  · rintro ⟨_, _, rfl, ⟨rfl, rfl⟩, x, _, rfl, hx, y, z, rfl, ⟨rfl, hafter⟩, rfl⟩
    obtain rfl : after = [] := by simpa using hafter
    exact ⟨rfl, rfl, by simpa using hx⟩
  · rintro ⟨rfl, rfl, h⟩
    exact ⟨[], part, rfl, ⟨rfl, rfl⟩, part, [], by simp, by simpa using h, [], [], rfl,
      ⟨rfl, rfl⟩, rfl⟩

end Expr

/-- **A package name matches exactly if the expression of the pattern derives a part of it.** -/
theorem selects_iff (p : PackagePattern) (name : String) :
    p.selects name = true ↔
      ∃ before part after, name.toList = before ++ (part ++ after) ∧
        p.expr.Derives before part after := by
  rw [selects, captures?, Option.isSome_map, Expr.search_isSome_iff]

end ClassAtlas.PackagePattern
