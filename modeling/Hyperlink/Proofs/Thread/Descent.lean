import Hyperlink.Thread
import Mathlib.Logic.Relation
import Mathlib.Data.List.Nodup

/-!
# Hyperlink.Proofs.Thread.Descent — what lies below a comment

* `RepliesTo`, `Under`: one reply, and a way of replies from one id to another.
* `under_iff_head`: an id below another one is that of a reply to it, or lies below such a reply.
* `RepliesTo.unique`: without repeated ids a comment replies to one id only, so ways of replies never fork.
* `not_under_self`: below an id that is not its own ancestor nothing is its own ancestor.
* `eq_of_within_both`: the parts below two replies to such an id have no id in common.
* `not_under_anchor`: the top level, which stands for the empty id, is such an id if no comment has it.
-/

namespace Hyperlink

namespace Thread

open ThreadEntry

variable {C : Type} [ThreadEntry C] {cs : List C}

/-- Some comment with the id `i` replies to the id `j`. -/
def RepliesTo (cs : List C) (i j : String) : Prop := ∃ c ∈ cs, entryId c = i ∧ parentId c = j

/-- Replies lead from the id `i` to the id `j`, in one step or more. -/
def Under (cs : List C) (i j : String) : Prop := Relation.TransGen (RepliesTo cs) i j

/-- The id `i` is `j` or lies below it. -/
def Within (cs : List C) (i j : String) : Prop := Relation.ReflTransGen (RepliesTo cs) i j

/-! ## Ways of replies -/

theorem repliesTo_parentId {c : C} (hc : c ∈ cs) : RepliesTo cs (entryId c) (parentId c) := ⟨c, hc, rfl, rfl⟩

theorem Under.mem_ids {i j : String} (h : Under cs i j) : i ∈ cs.map entryId := by
  obtain ⟨k, ⟨c, hc, hid, -⟩, -⟩ := Relation.TransGen.head'_iff.mp h
  exact List.mem_map.mpr ⟨c, hc, hid⟩

theorem within_iff {i j : String} : Within cs i j ↔ i = j ∨ Under cs i j := by
  refine Relation.reflTransGen_iff_eq_or_transGen.trans (or_congr_left ?_)
  exact eq_comm

/-- Below an id lie the replies to it and what lies below these. -/
theorem under_iff_head {i j : String} : Under cs i j ↔ ∃ c ∈ cs, parentId c = j ∧ Within cs i (entryId c) := by
  constructor
  · intro h
    obtain ⟨k, hk, c, hc, hid, hparent⟩ := Relation.TransGen.tail'_iff.mp h
    exact ⟨c, hc, hparent, hid ▸ hk⟩
  · rintro ⟨c, hc, hparent, hwithin⟩
    exact Relation.TransGen.tail'_iff.mpr ⟨_, hwithin, c, hc, rfl, hparent⟩

/-! ## Lists without repeated ids -/

theorem eq_of_entryId_eq (hd : (cs.map entryId).Nodup) {c d : C} (hc : c ∈ cs) (hc' : d ∈ cs)
    (h : entryId c = entryId d) : c = d :=
  List.inj_on_of_nodup_map hd hc hc' h

/-- A comment replies to one id only. -/
theorem RepliesTo.unique (hd : (cs.map entryId).Nodup) {i j k : String} (hj : RepliesTo cs i j)
    (hk : RepliesTo cs i k) : j = k := by
  obtain ⟨c, hc, hci, rfl⟩ := hj
  obtain ⟨d, hdm, hdi, rfl⟩ := hk
  rw [eq_of_entryId_eq hd hc hdm (hci.trans hdi.symm)]

/-- Whatever lies above an id other than its direct reply lies above that reply. -/
theorem Under.within_of_repliesTo (hd : (cs.map entryId).Nodup) {i j k : String} (hj : RepliesTo cs i j)
    (hk : Under cs i k) : Within cs j k := by
  obtain ⟨l, hl, hwithin⟩ := Relation.TransGen.head'_iff.mp hk
  rw [hj.unique hd hl]
  exact hwithin

/-- Of two ids above the same one, one lies within the other. -/
theorem within_or_within (hd : (cs.map entryId).Nodup) {i j k : String} (hj : Within cs i j) (hk : Within cs i k) :
    Within cs j k ∨ Within cs k j :=
  Relation.ReflTransGen.total_of_right_unique (fun _ _ _ => RepliesTo.unique hd) hj hk

/-- What lies below an id that is not its own ancestor is not its own ancestor either. -/
theorem not_under_self (hd : (cs.map entryId).Nodup) {i j : String} (hj : ¬ Under cs j j) (h : Under cs i j) :
    ¬ Under cs i i := by
  -- a circle through `i` passes every id that the way from `i` to `j` does
  induction h using Relation.TransGen.head_induction_on with
  | single hstep =>
    intro hself
    exact hj (Relation.TransGen.tail' (Under.within_of_repliesTo hd hstep hself) hstep)
  | head hstep _ ih =>
    intro hself
    exact ih (Relation.TransGen.tail' (Under.within_of_repliesTo hd hstep hself) hstep)

/-- Of two replies to an id that is not its own ancestor none lies below the other. -/
theorem eq_of_within (hd : (cs.map entryId).Nodup) {c d : C} (hc : c ∈ cs) (hdm : d ∈ cs) {j : String}
    (hj : ¬ Under cs j j) (hcj : parentId c = j) (hdj : parentId d = j) (h : Within cs (entryId c) (entryId d)) :
    c = d := by
  rcases within_iff.mp h with heq | hunder
  · exact eq_of_entryId_eq hd hc hdm heq
  · -- the way up from `c` would lead through `j` and come back to it behind `d`
    have hjd : Within cs j (entryId d) := hcj ▸ hunder.within_of_repliesTo hd (repliesTo_parentId hc)
    exact absurd (under_iff_head.mpr ⟨d, hdm, hdj, hjd⟩) hj

/-- Nothing lies below two replies to an id that is not its own ancestor. -/
theorem eq_of_within_both (hd : (cs.map entryId).Nodup) {c d : C} (hc : c ∈ cs) (hdm : d ∈ cs) {j : String}
    (hj : ¬ Under cs j j) (hcj : parentId c = j) (hdj : parentId d = j) {i : String} (hi : Within cs i (entryId c))
    (hi' : Within cs i (entryId d)) : c = d := by
  rcases within_or_within hd hi hi' with h | h
  · exact eq_of_within hd hc hdm hj hcj hdj h
  · exact (eq_of_within hd hdm hc hj hdj hcj h).symm

/-- The top level is below nothing if no id is empty. -/
theorem not_under_anchor (hne : ∀ c ∈ cs, entryId c ≠ "") {anchor : Option String}
    (hself : ∀ a ∈ anchor, ¬ Under cs a a) : ¬ Under cs (anchor.getD "") (anchor.getD "") := by
  cases anchor with
  | none =>
    intro h
    obtain ⟨c, hc, hid⟩ := List.mem_map.mp h.mem_ids
    exact hne c hc hid
  | some a => exact hself a rfl

end Thread

end Hyperlink
