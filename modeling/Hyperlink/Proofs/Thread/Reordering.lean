import Hyperlink.Proofs.Thread.Ancestry

/-!
# Hyperlink.Proofs.Thread.Reordering — threads do not depend on the order of the list

A store may deliver the comments in any order. All that is asked of a list on the way down is which comments reply to an
id, and on the way up which comment has an id.

* `OnlyReply.of_perm`, `answered_of_perm`: in every order of a list the same comments are single replies, and the same ids
  answer an id.
* `chain_of_perm`, `reached_of_perm`: so the chain from a comment is the same, and the search finds the same ids in some
  order; `groupAt_of_perm`: both make up the group of the comment.
* `find?_of_perm`, `ancestry_of_perm`: without repeated ids the walk up is the same too.
* `threads_ignore_order`: a list in another order has the same groups, in the new order of their heads, and the same
  threads.
-/

namespace Hyperlink

namespace Thread

open ThreadEntry

variable {C : Type} [ThreadEntry C] {cs cs' : List C}

theorem replies_of_perm (h : cs.Perm cs') (i : String) : (replies cs i).Perm (replies cs' i) := by
  unfold replies
  split
  · exact .refl _
  · exact h.filter _

theorem isNew_of_perm (h : cs.Perm cs') {seen : List String} {i : String} : IsNew cs seen i ↔ IsNew cs' seen i :=
  and_congr_right fun _ => (h.map entryId).mem_iff

/-! ## Downwards -/

/-- A single reply has no other order to stand in. -/
theorem OnlyReply.of_perm (h : cs.Perm cs') {a b : C} (hab : OnlyReply cs a b) : OnlyReply cs' a b := by
  have hperm := (replies_of_perm h (entryId a)).symm
  rw [hab] at hperm
  exact List.perm_singleton.mp hperm

theorem chainAfter_of_perm (h : cs.Perm cs') (seen : List String) (tail : C) :
    chainAfter cs seen tail = chainAfter cs' seen tail := by
  induction seen, tail using chainAfter.induct cs with
  | case1 seen tail next hreply hnew ih =>
    rw [chainAfter_of_isNew hreply hnew, chainAfter_of_isNew (OnlyReply.of_perm h hreply) ((isNew_of_perm h).mp hnew), ih]
  | case2 seen tail next hreply hnew =>
    have hnew' : ¬ IsNew cs' seen (entryId next) := fun hn => hnew ((isNew_of_perm h).mpr hn)
    rw [chainAfter_of_not_isNew hreply hnew, chainAfter_of_not_isNew (OnlyReply.of_perm h hreply) hnew']
  | case3 seen tail hreply =>
    have hreply' : ∀ next, ¬ OnlyReply cs' tail next := fun next hnext => hreply next (hnext.of_perm h.symm)
    rw [chainAfter_of_not_onlyReply hreply, chainAfter_of_not_onlyReply hreply']

/-- The chain from a comment is the same in every order of the list, also where ids repeat or replies run in a circle. -/
theorem chain_of_perm (h : cs.Perm cs') (head : C) : chain cs head = chain cs' head := by
  unfold chain
  rw [chainAfter_of_perm h]

theorem chainEnd_of_perm (h : cs.Perm cs') (head : C) : chainEnd cs head = chainEnd cs' head := by
  have hlast : (chain cs head).getLast? = some (chainEnd cs head) := getLast?_chain head
  rw [chain_of_perm h, getLast?_chain] at hlast
  exact (Option.some.inj hlast).symm

theorem answered_of_perm (h : cs.Perm cs') : Answered cs = Answered cs' := by
  funext i j
  exact propext ((replies_of_perm h i).map entryId).mem_iff

/-- The search finds the same ids, though it may meet them in another order. -/
theorem reached_of_perm (h : cs.Perm cs') (i : String) : (reached cs i).Perm (reached cs' i) := by
  refine (List.perm_ext_iff_of_nodup (nodup_reached i) (nodup_reached i)).mpr fun j => ?_
  rw [mem_reached, mem_reached, answered_of_perm h]

/-- The group of a comment is the same in every order of the list. -/
theorem groupAt_of_perm (h : cs.Perm cs') (head : C) : groupAt cs head = groupAt cs' head := by
  unfold groupAt
  rw [chain_of_perm h, chainEnd_of_perm h, (reached_of_perm h _).length_eq]

/-! ## Upwards -/

/-- Without repeated ids the comment with an id is the same one in every order of the list. -/
theorem find?_of_perm (h : cs.Perm cs') (hd : (cs.map entryId).Nodup) (i : String) : find? cs i = find? cs' i := by
  cases hfind : find? cs i with
  | some c =>
    obtain ⟨hc, rfl⟩ := find?_eq_some hfind
    exact (find?_entryId ((h.map entryId).nodup_iff.mp hd) (h.mem_iff.mp hc)).symm
  | none =>
    cases hfind' : find? cs' i with
    | none => rfl
    | some c =>
      obtain ⟨hc, rfl⟩ := find?_eq_some hfind'
      rw [find?_entryId hd (h.mem_iff.mpr hc)] at hfind
      cases hfind

theorem above_of_perm (h : cs.Perm cs') (hd : (cs.map entryId).Nodup) (seen : List String) (c : C) :
    above cs seen c = above cs' seen c := by
  induction seen, c using above.induct cs with
  | case1 seen c parent hfind hnew ih =>
    have hfind' : find? cs' (parentId c) = some parent := (find?_of_perm h hd _).symm.trans hfind
    rw [above_of_isNew hfind hnew, above_of_isNew hfind' ((isNew_of_perm h).mp hnew), ih]
  | case2 seen c parent hfind hnew =>
    have hfind' : find? cs' (parentId c) = some parent := (find?_of_perm h hd _).symm.trans hfind
    have hnew' : ¬ IsNew cs' seen (entryId parent) := fun hn => hnew ((isNew_of_perm h).mpr hn)
    rw [above_of_not_isNew hfind hnew, above_of_not_isNew hfind' hnew']
  | case3 seen c hfind =>
    have hfind' : find? cs' (parentId c) = none := (find?_of_perm h hd _).symm.trans hfind
    rw [above_of_find?_eq_none hfind, above_of_find?_eq_none hfind']

/-- Without repeated ids the thread that leads to a comment is the same in every order of the list. -/
theorem ancestry_of_perm (h : cs.Perm cs') (hd : (cs.map entryId).Nodup) (target : String) :
    ancestry cs target = ancestry cs' target := by
  unfold ancestry
  rw [find?_of_perm h hd]
  cases find? cs' target with
  | none => rfl
  | some c => simp only [above_of_perm h hd]

/-! ## Both ways -/

/-- The list `cs'` shows the same groups and threads as `cs`. -/
structure SameThreads (cs cs' : List C) : Prop where
  /-- Below every anchor both lists have the same groups, and those of `cs'` stand in the order of their heads there. -/
  groups : ∀ anchor, ∃ gs gs', Thread.groups cs anchor = .ok gs ∧ Thread.groups cs' anchor = .ok gs' ∧ gs.Perm gs' ∧
    gs'.map (·.comments.head?) = (cs'.filter (parentId · = anchor.getD "")).map some
  /-- If no id repeats, the thread that leads to any target is the same. -/
  ancestry : (cs.map entryId).Nodup → ∀ target, Thread.ancestry cs' target = Thread.ancestry cs target

/-- **Threads do not depend on the order of the list.**  The groups also agree if ids repeat, replies run in a circle or
comments are missing. -/
theorem threads_ignore_order (h : cs.Perm cs') : SameThreads cs cs' where
  groups anchor := by
    refine ⟨_, _, groups_eq anchor, groups_eq anchor, ?_, ?_⟩
    · rw [show groupAt cs = groupAt cs' from funext (groupAt_of_perm h)]
      exact (h.filter _).map _
    · rw [List.map_map]
      rfl
  ancestry hd target := (ancestry_of_perm h hd target).symm

/-- A list with two comments of one id, a circle of `x` and `y`, and a reply to a comment not here. -/
def repeatedComments : List Comment :=
  [{ id := "b", repliedComment := "a" }, { id := "x", repliedComment := "y" }, { id := "c", repliedComment := "b" },
    { id := "a" }, { id := "b", repliedComment := "a", author := "other" }, { id := "y", repliedComment := "x" },
    { id := "o", repliedComment := "gone" }]

theorem threads_ignore_order_reversed :
    repeatedComments.Perm repeatedComments.reverse ∧ ¬ (repeatedComments.map entryId).Nodup ∧
      SameThreads repeatedComments repeatedComments.reverse ∧
      (windingComments.map entryId).Nodup ∧
      ∀ target, ancestry windingComments.reverse target = ancestry windingComments target := by
  have hreverse : repeatedComments.Perm repeatedComments.reverse := (List.reverse_perm _).symm
  have hd : (windingComments.map entryId).Nodup := by decide
  exact ⟨hreverse, by decide, threads_ignore_order hreverse, hd,
    (threads_ignore_order (List.reverse_perm windingComments).symm).ancestry hd⟩

end Thread

end Hyperlink
