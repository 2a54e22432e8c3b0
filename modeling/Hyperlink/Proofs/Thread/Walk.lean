import Hyperlink.Thread
import Mathlib.Data.List.Chain
import Mathlib.Data.List.Nodup

/-!
# Hyperlink.Proofs.Thread.Walk — walks that meet no id twice

The chain below a comment and the way up from one are walks of the same kind: a step leads from a comment to the next
one, and the walk goes on as long as the next comment has an id that it has not met.

* `Walks`: the comments behind the first one, as a finite derivation; one constructor for each turn of the loop.
* `IsFullRun`: what a whole walk is, said without the ids it has met.
* `Walks.isFullRun`: a walk is a full run; `IsFullRun.unique`: if at most one step leads on from each comment, each
  comment starts one full run only.
-/

namespace Hyperlink

namespace Thread

open ThreadEntry

variable {C : Type} [ThreadEntry C] {cs : List C} {step : C → C → Prop}

/-- Having met the ids `seen`, the walk from a comment goes through the comments of the list and ends. -/
inductive Walks (cs : List C) (step : C → C → Prop) : List String → C → List C → Prop
  | stop {seen : List String} {c : C} (h : ∀ next, step c next → ¬ IsNew cs seen (entryId next)) :
      Walks cs step seen c []
  | go {seen : List String} {c next : C} {l : List C} (hstep : step c next) (hnew : IsNew cs seen (entryId next))
      (hrest : Walks cs step (entryId next :: seen) next l) : Walks cs step seen c (next :: l)

/-- A run of steps in which no id occurs twice, and which every further step would lead back to an id of its own. -/
structure IsFullRun (step : C → C → Prop) (l : List C) : Prop where
  isChain : l.IsChain step
  nodup : (l.map entryId).Nodup
  full : ∀ last, l.getLast? = some last → ∀ next, step last next → entryId next ∈ l.map entryId

/-! ## What a walk keeps -/

section Walks

variable {seen : List String} {c : C} {l : List C}

theorem Walks.isChain (h : Walks cs step seen c l) : (c :: l).IsChain step := by
  induction h with
  | stop _ => exact List.isChain_singleton _
  | go hstep _ _ ih => exact List.isChain_cons_cons.mpr ⟨hstep, ih⟩

theorem Walks.nodup (h : Walks cs step seen c l) : (l.map entryId).Nodup ∧ ∀ d ∈ l, entryId d ∉ seen := by
  induction h with
  | stop _ => simp
  | go _ hnew _ ih =>
    rw [List.map_cons, List.nodup_cons, List.forall_mem_cons]
    obtain ⟨hnodup, hfresh⟩ := ih
    refine ⟨⟨?_, hnodup⟩, hnew.1, fun d hd hseen => hfresh d hd (List.mem_cons_of_mem _ hseen)⟩
    intro hmem
    obtain ⟨d, hd, hid⟩ := List.mem_map.mp hmem
    exact hfresh d hd (hid ▸ List.mem_cons_self)

/-- If all steps lead to comments of the list, those from the last one lead to an id that was met. -/
theorem Walks.full (hcs : ∀ a b, step a b → b ∈ cs) (h : Walks cs step seen c l) {last next : C}
    (hlast : (c :: l).getLast? = some last) (hnext : step last next) :
    entryId next ∈ seen ∨ entryId next ∈ l.map entryId := by
  induction h with
  | stop hstop =>
    obtain rfl := Option.some.inj hlast
    refine Or.inl (not_not.mp fun hseen => hstop next hnext ⟨hseen, ?_⟩)
    exact List.mem_map_of_mem (hcs _ _ hnext)
  | go _ _ _ ih =>
    rw [List.getLast?_cons_cons] at hlast
    rw [List.map_cons, List.mem_cons]
    rcases ih hlast with hseen | hmem
    · rcases List.mem_cons.mp hseen with hid | hseen
      · exact Or.inr (Or.inl hid)
      · exact Or.inl hseen
    · exact Or.inr (Or.inr hmem)

/-- A walk that starts with no other id met than that of its first comment is a full run. -/
theorem Walks.isFullRun (hcs : ∀ a b, step a b → b ∈ cs) (h : Walks cs step [entryId c] c l) :
    IsFullRun step (c :: l) where
  isChain := h.isChain
  nodup := by
    obtain ⟨hnodup, hfresh⟩ := h.nodup
    refine List.nodup_cons.mpr ⟨?_, hnodup⟩
    intro hmem
    obtain ⟨d, hd, hid⟩ := List.mem_map.mp hmem
    exact hfresh d hd (List.mem_singleton.mpr hid)
  full last hlast next hnext := by
    rw [List.map_cons, List.mem_cons, ← List.mem_singleton]
    exact h.full hcs hlast hnext

end Walks

omit [ThreadEntry C] in
/-- Steps that lead to comments of the list do not leave it. -/
theorem mem_of_isChain (hcs : ∀ a b, step a b → b ∈ cs) {l : List C} {head c : C} (hhead : head ∈ cs)
    (hchain : (head :: l).IsChain step) (hc : c ∈ head :: l) : c ∈ cs := by
  induction l generalizing head with
  | nil => exact List.mem_singleton.mp hc ▸ hhead
  | cons b l ih =>
    obtain ⟨hb, hrest⟩ := List.isChain_cons_cons.mp hchain
    rcases List.mem_cons.mp hc with rfl | hc
    · exact hhead
    · exact ih (hcs head b hb) hrest hc

/-! ## One full run from each comment -/

/-- A full run that goes on behind another one would repeat an id. -/
theorem IsFullRun.not_append {front l : List C} {c b : C} (h : IsFullRun step (front ++ [c]))
    (h' : IsFullRun step (front ++ c :: b :: l)) : False := by
  have hstep : step c b := (List.isChain_cons_cons.mp h'.isChain.right_of_append).1
  have hmem := h.full c (by simp) b hstep
  have hnodup := h'.nodup
  rw [List.append_cons, List.map_append, List.map_cons] at hnodup
  exact (List.nodup_append'.mp hnodup).2.2 hmem List.mem_cons_self

/-- Full runs that begin with the same comments are the same if at most one step leads on from each comment. -/
theorem IsFullRun.unique_append (huniq : ∀ a b b', step a b → step a b' → b = b') {front l l' : List C} {c : C}
    (h : IsFullRun step (front ++ c :: l)) (h' : IsFullRun step (front ++ c :: l')) : l = l' := by
  -- what makes a run full concerns all of it, so the comments passed stay in front
  induction l generalizing front c l' with
  | nil =>
    cases l' with
    | nil => rfl
    | cons b' l' => exact (h.not_append h').elim
  | cons b l ih =>
    cases l' with
    | nil => exact (h'.not_append h).elim
    | cons b' l' =>
      have hb := (List.isChain_cons_cons.mp h.isChain.right_of_append).1
      have hb' := (List.isChain_cons_cons.mp h'.isChain.right_of_append).1
      obtain rfl := huniq c b b' hb hb'
      rw [List.append_cons] at h h'
      rw [ih h h']

theorem IsFullRun.unique (huniq : ∀ a b b', step a b → step a b' → b = b') {c : C} {l l' : List C}
    (h : IsFullRun step (c :: l)) (h' : IsFullRun step (c :: l')) : l = l' := by
  rw [← List.nil_append (c :: l)] at h
  rw [← List.nil_append (c :: l')] at h'
  exact h.unique_append huniq h'

end Thread

end Hyperlink
