import Hyperlink.Proofs.Thread.Ancestry
import Mathlib.Data.Finset.Card

/-!
# Hyperlink.Proofs.Thread.Lineage — what the thread that leads to a comment is

The thread is defined here without the loop that finds it, for every list: ids may be empty or occur more than once, and
replies may run in a circle.

* `IsFirst`: the comment that an id stands for.
* `IsWayUp`, `IsThread`: the comments above a target, and the thread that leads to it.
* `walks_above`: the walk up goes from a comment to the one that its reply id stands for.
* `isWayUp_iff`: the ways up are the full runs of such steps, so there is one from each target.
* `ancestry_meets_definition`: the thread of a target is what it is defined to be, and no longer than the ids allow.
-/

namespace Hyperlink

namespace Thread

open ThreadEntry

variable {C : Type} [ThreadEntry C] {cs : List C}

/-! ## The definition -/

/-- The comment is the first one of the list with the id. -/
def IsFirst (cs : List C) (i : String) (c : C) : Prop :=
  entryId c = i ∧ ∃ before after, cs = before ++ c :: after ∧ ∀ d ∈ before, entryId d ≠ i

/-- The way up from a target, which comes first. -/
structure IsWayUp (cs : List C) (target : String) (l : List C) : Prop where
  start : ∃ c, l.head? = some c ∧ IsFirst cs target c
  /-- Every later comment is the first one with the id that the one before it replies to. -/
  parents : l.IsChain fun a b => IsFirst cs (parentId a) b
  nodup : (l.map entryId).Nodup
  /-- What the last comment replies to is not in the list, or has an id on the way. -/
  full : ∀ top, l.getLast? = some top → parentId top ∉ cs.map entryId ∨ parentId top ∈ l.map entryId

/-- The thread that leads to a target: behind `none` the way up from it in reverse, or nothing if it is missing. -/
def IsThread (cs : List C) (target : String) (thread : List (Option C)) : Prop :=
  (target ∉ cs.map entryId ∧ thread = [none]) ∨ ∃ l, IsWayUp cs target l ∧ thread = none :: l.reverse.map some

/-! ## Ways up -/

theorem find?_eq_some_iff {i : String} {c : C} : find? cs i = some c ↔ IsFirst cs i c := by
  rw [find?, List.find?_eq_some_iff_append]
  simp [IsFirst]

theorem find?_eq_none_iff {i : String} : find? cs i = none ↔ i ∉ cs.map entryId := by
  rw [find?, List.find?_eq_none]
  simp

theorem IsFirst.unique {i : String} {c d : C} (h : IsFirst cs i c) (h' : IsFirst cs i d) : c = d := by
  rw [← find?_eq_some_iff] at h h'
  exact Option.some.inj (h.symm.trans h')

theorem IsFirst.mem {i : String} {c : C} (h : IsFirst cs i c) : c ∈ cs :=
  (find?_eq_some (find?_eq_some_iff.mpr h)).1

/-- The comment `b` is the one that the reply id of `a` stands for. -/
def IsParent (cs : List C) (a b : C) : Prop := IsFirst cs (parentId a) b

theorem walks_above (seen : List String) (c : C) : Walks cs (IsParent cs) seen c (above cs seen c) := by
  induction seen, c using above.induct cs with
  | case1 seen c parent hfind hnew ih =>
    rw [above_of_isNew hfind hnew]
    exact .go (find?_eq_some_iff.mp hfind) hnew ih
  | case2 seen c parent hfind hnew =>
    rw [above_of_not_isNew hfind hnew]
    exact .stop fun b hb => IsFirst.unique (find?_eq_some_iff.mp hfind) hb ▸ hnew
  | case3 seen c hfind =>
    rw [above_of_find?_eq_none hfind]
    exact .stop fun b hb => by rw [IsParent, ← find?_eq_some_iff, hfind] at hb; cases hb

theorem above_isFullRun (c : C) : IsFullRun (IsParent cs) (c :: above cs [entryId c] c) :=
  (walks_above _ c).isFullRun fun _ _ => IsFirst.mem

/-- A step up from a comment leads back to one of the ids iff the comment replies to one of them, or there is no step. -/
theorem forall_isParent_iff {top : C} {ids : List String} :
    (∀ next, IsParent cs top next → entryId next ∈ ids) ↔ parentId top ∉ cs.map entryId ∨ parentId top ∈ ids := by
  constructor
  · intro h
    cases hfind : find? cs (parentId top) with
    | none => exact Or.inl (find?_eq_none_iff.mp hfind)
    | some next =>
      have hid := h next (find?_eq_some_iff.mp hfind)
      rw [(find?_eq_some hfind).2] at hid
      exact Or.inr hid
  · intro h next hnext
    rw [hnext.1]
    refine h.resolve_left (not_not_intro ?_)
    rw [← hnext.1]
    exact List.mem_map_of_mem hnext.mem

theorem isWayUp_iff {target : String} {l : List C} :
    IsWayUp cs target l ↔ (∃ c, l.head? = some c ∧ IsFirst cs target c) ∧ IsFullRun (IsParent cs) l := by
  constructor
  · intro h
    exact ⟨h.start, h.parents, h.nodup, fun top htop => forall_isParent_iff.mpr (h.full top htop)⟩
  · rintro ⟨hstart, hrun⟩
    exact ⟨hstart, hrun.isChain, hrun.nodup, fun top htop => forall_isParent_iff.mp (hrun.full top htop)⟩

/-- The way up from a comment is the one that is found. -/
theorem isWayUp_iff_eq {target : String} {c : C} (hc : IsFirst cs target c) {l : List C} :
    IsWayUp cs target l ↔ l = c :: above cs [entryId c] c := by
  rw [isWayUp_iff]
  constructor
  · rintro ⟨⟨d, hhead, hd⟩, hrun⟩
    obtain rfl := hc.unique hd
    obtain ⟨rest, rfl⟩ := List.head?_eq_some_iff.mp hhead
    have huniq : ∀ a b b', IsParent cs a b → IsParent cs a b' → b = b' := fun _ _ _ => IsFirst.unique
    rw [hrun.unique huniq (above_isFullRun c)]
  · rintro rfl
    exact ⟨⟨c, rfl, hc⟩, above_isFullRun c⟩

/-! ## Threads -/

theorem isThread_iff {target : String} {thread : List (Option C)} :
    IsThread cs target thread ↔ thread = ancestry cs target := by
  cases hfind : find? cs target with
  | none =>
    have hmissing := find?_eq_none_iff.mp hfind
    rw [ancestry_of_find?_eq_none hfind]
    constructor
    · rintro (⟨-, rfl⟩ | ⟨l, hl, -⟩)
      · rfl
      · obtain ⟨c, -, hc⟩ := hl.start
        rw [← find?_eq_some_iff, hfind] at hc
        cases hc
    · rintro rfl
      exact Or.inl ⟨hmissing, rfl⟩
  | some c =>
    have hc := find?_eq_some_iff.mp hfind
    rw [ancestry_of_find?_eq_some hfind]
    constructor
    · rintro (⟨hmissing, -⟩ | ⟨l, hl, rfl⟩)
      · rw [find?_eq_none_iff.mpr hmissing] at hfind
        cases hfind
      · rw [(isWayUp_iff_eq hc).mp hl]
    · rintro rfl
      exact Or.inr ⟨_, (isWayUp_iff_eq hc).mpr rfl, rfl⟩

/-- As no id repeats on the way up, a thread has no more comments than the list has ids. -/
theorem length_ancestry_le (target : String) : (ancestry cs target).length ≤ (cs.map entryId).toFinset.card + 1 := by
  cases hfind : find? cs target with
  | none => simp [ancestry_of_find?_eq_none hfind]
  | some c =>
    have hrun : IsFullRun (IsParent cs) (c :: above cs [entryId c] c) := above_isFullRun c
    have hmem : ∀ d ∈ c :: above cs [entryId c] c, d ∈ cs :=
      fun d hd => mem_of_isChain (fun _ _ => IsFirst.mem) (find?_eq_some hfind).1 hrun.isChain hd
    have hsub : ((c :: above cs [entryId c] c).map entryId).toFinset ⊆ (cs.map entryId).toFinset := by
      intro i hi
      obtain ⟨d, hd, rfl⟩ := List.mem_map.mp (List.mem_toFinset.mp hi)
      exact List.mem_toFinset.mpr (List.mem_map_of_mem (hmem d hd))
    have hle := Finset.card_le_card hsub
    rw [List.toFinset_card_of_nodup hrun.nodup, List.length_map] at hle
    rw [ancestry_of_find?_eq_some hfind, List.length_cons, List.length_map, List.length_reverse]
    exact Nat.succ_le_succ hle

/-- **The thread that leads to a target is what it is defined to be**, on every list, and nothing else is. -/
theorem ancestry_meets_definition (cs : List C) (target : String) :
    (∀ thread, IsThread cs target thread ↔ thread = ancestry cs target) ∧
      (ancestry cs target).length ≤ (cs.map entryId).toFinset.card + 1 :=
  ⟨fun _ => isThread_iff, length_ancestry_le target⟩

end Thread

end Hyperlink
