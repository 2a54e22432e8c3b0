import Hyperlink.Proofs.Thread.Groups
import Hyperlink.Comment

/-!
# Hyperlink.Proofs.Thread.Ancestry — the walk up from a group

* `above_congr`: the walk up from a comment depends on the ids met before only as far as they lie above the comment.
* `ancestry_entryId`: a comment that is not its own ancestor stands behind the thread of what it replies to.
* `ancestry_of_isChain`: so the thread of a comment in a chain is that of the head's parent and the chain up to it.
* `ancestry_of_groups`: the walk up from a group leads through the group to the thread of the anchor.
-/

namespace Hyperlink

namespace Thread

open ThreadEntry

variable {C : Type} [ThreadEntry C] {cs : List C}

/-! ## Looking up comments -/

theorem find?_eq_some {i : String} {c : C} (h : find? cs i = some c) : c ∈ cs ∧ entryId c = i :=
  ⟨List.mem_of_find?_eq_some h, by simpa using List.find?_some h⟩

/-- Without repeated ids a comment is found by its id. -/
theorem find?_entryId (hd : (cs.map entryId).Nodup) {c : C} (hc : c ∈ cs) : find? cs (entryId c) = some c := by
  cases h : find? cs (entryId c) with
  | none =>
    have hno := List.find?_eq_none.mp h c hc
    simp at hno
  | some d =>
    obtain ⟨hdm, hid⟩ := find?_eq_some h
    rw [eq_of_entryId_eq hd hdm hc hid]

/-! ## The walk up -/

theorem above_of_find?_eq_none {seen : List String} {c : C} (h : find? cs (parentId c) = none) :
    above cs seen c = [] := by
  rw [above, h]

theorem above_of_isNew {seen : List String} {c parent : C} (h : find? cs (parentId c) = some parent)
    (hnew : IsNew cs seen (entryId parent)) : above cs seen c = parent :: above cs (entryId parent :: seen) parent := by
  rw [above, h]
  simp only [if_pos hnew]

theorem above_of_not_isNew {seen : List String} {c parent : C} (h : find? cs (parentId c) = some parent)
    (hnew : ¬ IsNew cs seen (entryId parent)) : above cs seen c = [] := by
  rw [above, h]
  simp only [if_neg hnew]

/-- The walk up from a comment asks only of the ids above it whether they have been met. -/
theorem above_congr {seen seen' : List String} {c : C} (hc : c ∈ cs)
    (h : ∀ i, Under cs (entryId c) i → (i ∈ seen ↔ i ∈ seen')) : above cs seen c = above cs seen' c := by
  induction seen, c using above.induct cs generalizing seen' with
  | case1 seen c parent hfind hnew ih =>
    obtain ⟨hparent, hid⟩ := find?_eq_some hfind
    have hstep : RepliesTo cs (entryId c) (entryId parent) := hid ▸ repliesTo_parentId hc
    have hnew' : IsNew cs seen' (entryId parent) :=
      ⟨fun hmem => hnew.1 ((h _ (.single hstep)).mpr hmem), hnew.2⟩
    rw [above_of_isNew hfind hnew, above_of_isNew hfind hnew', ih hparent]
    intro i hi
    rw [List.mem_cons, List.mem_cons, h i (hi.head hstep)]
  | case2 seen c parent hfind hnew =>
    obtain ⟨-, hid⟩ := find?_eq_some hfind
    have hstep : RepliesTo cs (entryId c) (entryId parent) := hid ▸ repliesTo_parentId hc
    have hnew' : ¬ IsNew cs seen' (entryId parent) :=
      fun hn => hnew ⟨fun hmem => hn.1 ((h _ (.single hstep)).mp hmem), hn.2⟩
    rw [above_of_not_isNew hfind hnew, above_of_not_isNew hfind hnew']
  | case3 seen c hfind => rw [above_of_find?_eq_none hfind, above_of_find?_eq_none hfind]

/-! ## Threads -/

theorem ancestry_of_find?_eq_none {i : String} (h : find? cs i = none) : ancestry cs i = [none] := by
  rw [ancestry, h]

theorem ancestry_of_find?_eq_some {i : String} {c : C} (h : find? cs i = some c) :
    ancestry cs i = none :: (c :: above cs [entryId c] c).reverse.map some := by
  rw [ancestry, h]

/-- A comment that is not its own ancestor stands behind the thread of what it replies to, also if that is not in the
list or leads into a circle. -/
theorem ancestry_entryId (hd : (cs.map entryId).Nodup) {c : C} (hc : c ∈ cs)
    (hself : ¬ Under cs (entryId c) (entryId c)) : ancestry cs (entryId c) = ancestry cs (parentId c) ++ [some c] := by
  rw [ancestry_of_find?_eq_some (find?_entryId hd hc)]
  cases hfind : find? cs (parentId c) with
  | none => rw [above_of_find?_eq_none hfind, ancestry_of_find?_eq_none hfind]; rfl
  | some parent =>
    obtain ⟨hparent, hid⟩ := find?_eq_some hfind
    have hstep : RepliesTo cs (entryId c) (entryId parent) := hid ▸ repliesTo_parentId hc
    have hnew : IsNew cs [entryId c] (entryId parent) := by
      refine ⟨fun hmem => hself ?_, List.mem_map_of_mem hparent⟩
      rw [List.mem_singleton] at hmem
      exact .single (hmem ▸ hstep)
    -- the comment itself has been met too, but it does not lie above its parent
    have hcongr : above cs [entryId parent, entryId c] parent = above cs [entryId parent] parent := by
      refine above_congr hparent fun i hi => ?_
      have hne : i ≠ entryId c := by
        rintro rfl
        exact hself (hi.head hstep)
      simp [hne]
    rw [above_of_isNew hfind hnew, hcongr, ancestry_of_find?_eq_some hfind, List.reverse_cons, List.map_append]
    rfl

/-- The thread of a comment in a chain: what leads to the head, and the chain up to the comment. -/
theorem ancestry_of_isChain (hd : (cs.map entryId).Nodup) {head : C} {l : List C} (hhead : head ∈ cs)
    (hchain : (head :: l).IsChain (OnlyReply cs)) (hself : ¬ Under cs (parentId head) (parentId head)) {k : Nat}
    (hk : k < (head :: l).length) :
    ancestry cs (entryId (head :: l)[k]) = ancestry cs (parentId head) ++ ((head :: l).take (k + 1)).map some := by
  induction l generalizing head k with
  | nil =>
    obtain rfl : k = 0 := by simpa using hk
    exact ancestry_entryId hd hhead (not_under_self hd hself (.single (repliesTo_parentId hhead)))
  | cons b l ih =>
    have hheadself := not_under_self hd hself (.single (repliesTo_parentId hhead))
    cases k with
    | zero => exact ancestry_entryId hd hhead hheadself
    | succ k =>
      obtain ⟨hb, hrest⟩ := List.isChain_cons_cons.mp hchain
      obtain ⟨-, hbcs, hparent⟩ := mem_replies.mp hb.mem_replies
      have hthread := ih hbcs hrest (hparent.symm ▸ hheadself) (Nat.lt_of_succ_lt_succ hk)
      rw [hparent, ancestry_entryId hd hhead hheadself, List.append_assoc] at hthread
      exact hthread

/-- **The walk up from a group agrees with the way down to it.**  If the anchor is not its own ancestor, its groups can
be read, and the thread of every comment of a group is the thread of the anchor with the group up to the comment
behind it. -/
theorem ancestry_of_groups (hd : (cs.map entryId).Nodup) (hne : ∀ c ∈ cs, entryId c ≠ "") {anchor : Option String}
    (hself : ∀ a ∈ anchor, ¬ Under cs a a) :
    ∃ gs, groups cs anchor = .ok gs ∧ ∀ g ∈ gs, ∀ k, ∀ hk : k < g.comments.length,
      ancestry cs (entryId g.comments[k]) =
        ancestry cs (anchor.getD "") ++ (g.comments.take (k + 1)).map some := by
  refine ⟨_, groups_eq anchor, fun g hg k hk => ?_⟩
  obtain ⟨head, hhead, rfl, hparent⟩ := exists_head_of_mem_groups (groups_eq anchor) hg
  have hparentself : ¬ Under cs (parentId head) (parentId head) := hparent.symm ▸ not_under_anchor hne hself
  have hthread := ancestry_of_isChain hd hhead (chain_isChain head) hparentself hk
  rwa [hparent] at hthread

/-- A list in which the way up from `z` leads into the circle of `x` and `y`, with a chain and a branch below `z`. -/
def windingComments : List Comment :=
  [{ id := "e", repliedComment := "d" }, { id := "d", repliedComment := "c" }, { id := "x", repliedComment := "y" },
    { id := "c", repliedComment := "z" }, { id := "y", repliedComment := "x" }, { id := "z", repliedComment := "x" },
    { id := "f", repliedComment := "d" }]

theorem ancestry_of_groups_winding :
    (windingComments.map entryId).Nodup ∧ (∀ c ∈ windingComments, entryId c ≠ "") ∧
      (∀ a ∈ some "z", ¬ Under windingComments a a) ∧
      ∃ gs, groups windingComments (some "z") = .ok gs ∧ ∀ g ∈ gs, ∀ k, ∀ hk : k < g.comments.length,
        ancestry windingComments (entryId g.comments[k]) =
          ancestry windingComments ((some "z").getD "") ++ (g.comments.take (k + 1)).map some := by
  have hd : (windingComments.map entryId).Nodup := by decide
  have hne : ∀ c ∈ windingComments, entryId c ≠ "" := by decide
  have hself : ∀ a ∈ some "z", ¬ Under windingComments a a := by
    -- whatever lies above `z` is on the circle
    have hcircle : ∀ i ∈ ["x", "y", "z"], ∀ j, RepliesTo windingComments i j → j ∈ ["x", "y"] := by
      rintro i hi j ⟨c, hc, rfl, rfl⟩
      revert hi
      revert c
      decide
    have habove : ∀ j, Under windingComments "z" j → j ∈ ["x", "y"] := by
      intro j hj
      induction hj with
      | single hstep => exact hcircle _ (by decide) _ hstep
      | tail _ hstep ih => exact hcircle _ ((by decide : ["x", "y"] ⊆ ["x", "y", "z"]) ih) _ hstep
    rintro _ ⟨⟩ hunder
    exact absurd (habove _ hunder) (by decide)
  exact ⟨hd, hne, hself, ancestry_of_groups hd hne hself⟩

end Thread

end Hyperlink
