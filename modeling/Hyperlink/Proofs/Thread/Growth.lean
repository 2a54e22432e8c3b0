import Hyperlink.Proofs.Thread.Drill
import Hyperlink.Proofs.Thread.Grouping
import Hyperlink.Proofs.Thread.Reordering

/-!
# Hyperlink.Proofs.Thread.Growth — what a new reply changes

A comment arrives whose id nothing in the list has or replies to. It may be put at any place of the list.

* `IsFresh`: such a comment. `IsFresh.under_cons_iff`: replies lead between all other ids as they did before.
* `extent`: the number of comments within an id; `shown_add_counted`: a group shows or counts each comment within its
  head. A new comment is one more within the ids above it (`IsFresh.extent_cons`).
* `chain_cons_of_not_mem`: a chain that the new comment does not reply into stays as it is. In others a second reply
  ends the chain at the comment replied to (`chain_cons_cut`), a first one goes on with it (`IsFresh.chain_cons_concat`).
* `new_reply_changes_one_group`: so a new reply starts a group of its own, or changes the one it stands below, or none.
-/

namespace Hyperlink

namespace Thread

open ThreadEntry

variable {C : Type} [ThreadEntry C] {cs : List C} {c : C}

/-- The comment has an id, and no comment of the list has that id or replies to it; nor does it reply to itself. -/
structure IsFresh (cs : List C) (c : C) : Prop where
  id_ne : entryId c ≠ ""
  not_mem_ids : entryId c ∉ cs.map entryId
  not_mem_parents : entryId c ∉ cs.map parentId
  parent_ne : parentId c ≠ entryId c

/-! ## Ways of replies -/

theorem repliesTo_cons_iff {i j : String} :
    RepliesTo (c :: cs) i j ↔ (entryId c = i ∧ parentId c = j) ∨ RepliesTo cs i j := by
  simp [RepliesTo]

theorem IsFresh.ne_of_repliesTo (h : IsFresh cs c) {i j : String} (hij : RepliesTo cs i j) : j ≠ entryId c := by
  obtain ⟨d, hd, -, rfl⟩ := hij
  intro heq
  exact h.not_mem_parents (heq ▸ List.mem_map_of_mem hd)

/-- Nothing replies to a new comment, so no way between other ids leads through it. -/
theorem IsFresh.under_cons_iff (h : IsFresh cs c) {i j : String} (hi : i ≠ entryId c) :
    Under (c :: cs) i j ↔ Under cs i j := by
  have hstep : ∀ {k l : String}, k ≠ entryId c → RepliesTo (c :: cs) k l → RepliesTo cs k l := by
    intro k l hk hkl
    exact (repliesTo_cons_iff.mp hkl).resolve_left fun hnew => hk hnew.1.symm
  constructor
  · intro hij
    induction hij using Relation.TransGen.head_induction_on with
    | single hlast => exact .single (hstep hi hlast)
    | head hfirst _ ih =>
      have hfirst := hstep hi hfirst
      exact .head hfirst (ih (h.ne_of_repliesTo hfirst))
  · intro hij
    exact Relation.TransGen.mono (fun _ _ hkl => repliesTo_cons_iff.mpr (Or.inr hkl)) _ _ hij

theorem IsFresh.within_cons_iff (h : IsFresh cs c) {i j : String} (hi : i ≠ entryId c) :
    Within (c :: cs) i j ↔ Within cs i j := by
  rw [within_iff, within_iff, h.under_cons_iff hi]

/-- A new comment lies within the ids that the id it replies to lies within. -/
theorem IsFresh.within_cons_self_iff (h : IsFresh cs c) {j : String} (hj : j ≠ entryId c) :
    Within (c :: cs) (entryId c) j ↔ Within cs (parentId c) j := by
  rw [← h.within_cons_iff h.parent_ne]
  have hstep : RepliesTo (c :: cs) (entryId c) (parentId c) := repliesTo_parentId List.mem_cons_self
  constructor
  · intro hwithin
    obtain rfl | ⟨k, hk, hkj⟩ := Relation.ReflTransGen.cases_head hwithin
    · exact absurd rfl hj
    · rcases repliesTo_cons_iff.mp hk with ⟨-, rfl⟩ | hold
      · exact hkj
      · obtain ⟨d, hd, hid, -⟩ := hold
        exact absurd (hid ▸ List.mem_map_of_mem hd) h.not_mem_ids
  · intro hwithin
    exact hwithin.head hstep

theorem IsFresh.not_under_self_cons (h : IsFresh cs c) {i : String} (hi : i ≠ entryId c) (hself : ¬ Under cs i i) :
    ¬ Under (c :: cs) i i := by
  rwa [h.under_cons_iff hi]

/-! ## The number of comments within an id -/

open Classical in
/-- The number of comments within an id. -/
noncomputable def extent (cs : List C) (i : String) : Nat := (cs.filter fun d => Within cs (entryId d) i).length

theorem ListsOnce.length_eq_extent (hd : (cs.map entryId).Nodup) {i : String} {out : List C}
    (h : ListsOnce cs (Within cs · i) out) : out.length = extent cs i := by
  classical
  have hperm : out.Perm (cs.filter fun d => Within cs (entryId d) i) := by
    refine (List.perm_ext_iff_of_nodup h.nodup.of_map (hd.of_map.filter _)).mpr fun d => ?_
    rw [h.mem_iff, List.mem_filter, decide_eq_true_eq]
  rw [hperm.length_eq, extent]

/-- A group shows or counts each comment within its head. -/
theorem shown_add_counted (hd : (cs.map entryId).Nodup) (hne : ∀ d ∈ cs, entryId d ≠ "") {head : C}
    (hhead : head ∈ cs) (hself : ¬ Under cs (parentId head) (parentId head)) :
    (groupAt cs head).comments.length + (groupAt cs head).moreComments = extent cs (entryId head) := by
  have hend := (chainEnd_under hd hhead hself).2
  obtain ⟨below, -, hbelow⟩ := exists_drills hd (some (entryId (chainEnd cs head))) hend
  have hcount : (groupAt cs head).moreComments = below.length := length_reached hne (chainEnd_mem hhead) hend hbelow
  have hall := (listsOnce_group hd hhead hend hbelow).length_eq_extent hd
  rw [List.length_append] at hall
  rw [hcount, ← hall]
  rfl

open Classical in
/-- A new comment is one more within the ids above it. -/
theorem IsFresh.extent_cons (h : IsFresh cs c) {i : String} (hi : i ≠ entryId c) :
    extent (c :: cs) i = if Within cs (parentId c) i then extent cs i + 1 else extent cs i := by
  have hold : (cs.filter fun d => Within (c :: cs) (entryId d) i) = cs.filter fun d => Within cs (entryId d) i := by
    refine List.filter_congr fun d hd => ?_
    rw [decide_eq_decide]
    exact h.within_cons_iff fun heq => h.not_mem_ids (heq ▸ List.mem_map_of_mem hd)
  unfold extent
  by_cases hwithin : Within cs (parentId c) i
  · have hnew : Within (c :: cs) (entryId c) i := (h.within_cons_self_iff hi).mpr hwithin
    rw [if_pos hwithin, List.filter_cons_of_pos (by simpa using hnew), hold, List.length_cons]
  · have hnew : ¬ Within (c :: cs) (entryId c) i := fun hw => hwithin ((h.within_cons_self_iff hi).mp hw)
    rw [if_neg hwithin, List.filter_cons_of_neg (by simpa using hnew), hold]

/-! ## Chains -/

theorem replies_cons_of_ne {i : String} (h : i ≠ parentId c) : replies (c :: cs) i = replies cs i := by
  unfold replies
  rw [List.filter_cons_of_neg (by simpa using h.symm)]

theorem replies_cons_self {i : String} (hi : i ≠ "") (h : i = parentId c) :
    replies (c :: cs) i = c :: replies cs i := by
  unfold replies
  rw [if_neg hi, if_neg hi, List.filter_cons_of_pos (by simpa using h.symm)]

theorem onlyReply_cons_iff {a b : C} (h : entryId a ≠ parentId c) : OnlyReply (c :: cs) a b ↔ OnlyReply cs a b := by
  rw [OnlyReply, OnlyReply, replies_cons_of_ne h]

/-- Nothing replies to a new comment. -/
theorem IsFresh.replies_eq_nil (h : IsFresh cs c) : replies (c :: cs) (entryId c) = [] := by
  rw [replies_cons_of_ne h.parent_ne.symm, List.eq_nil_iff_forall_not_mem]
  intro d hd
  obtain ⟨-, hcs, hparent⟩ := mem_replies.mp hd
  exact h.not_mem_parents (hparent ▸ List.mem_map_of_mem hcs)

theorem IsFresh.not_onlyReply (h : IsFresh cs c) (b : C) : ¬ OnlyReply (c :: cs) c b := by
  rw [OnlyReply, h.replies_eq_nil]
  exact List.cons_ne_nil b [] ∘ Eq.symm

/-- The chain from a comment is the full run of single replies that begins with it. -/
theorem chain_eq_of_isFullRun {head : C} {l : List C} (hhead : l.head? = some head)
    (h : IsFullRun (OnlyReply cs) l) : chain cs head = l :=
  (isReplyChain_iff_eq.mp (isReplyChain_iff.mpr ⟨hhead, h⟩)).symm

theorem IsFresh.chain_self (h : IsFresh cs c) : chain (c :: cs) c = [c] := by
  unfold chain
  rw [chainAfter_of_not_onlyReply h.not_onlyReply]

/-- A chain that the comment does not reply into stays as it is. -/
theorem chain_cons_of_not_mem {head : C} (hp : parentId c ∉ (chain cs head).map entryId) :
    chain (c :: cs) head = chain cs head := by
  have hrun : IsFullRun (OnlyReply cs) (chain cs head) := chain_isFullRun head
  have hother : ∀ a ∈ chain cs head, entryId a ≠ parentId c := by
    intro a ha heq
    exact hp (heq ▸ List.mem_map_of_mem ha)
  refine chain_eq_of_isFullRun rfl ⟨?_, hrun.nodup, ?_⟩
  · exact hrun.isChain.imp_of_mem_imp fun a b ha _ hab => (onlyReply_cons_iff (hother a ha)).mpr hab
  · intro last hlast next hnext
    have hold := hother last (List.mem_of_getLast? hlast)
    exact hrun.full last hlast next ((onlyReply_cons_iff hold).mp hnext)

section Cut

variable {head x : C} {front rest : List C} (hsplit : chain cs head = front ++ x :: rest) (hx : entryId x = parentId c)

include hsplit hx

/-- Up to the comment replied to a chain stays a run of single replies, as no id of it repeats. -/
theorem isChain_cut : (front ++ [x]).IsChain (OnlyReply (c :: cs)) := by
  have hrun : IsFullRun (OnlyReply cs) (chain cs head) := chain_isFullRun head
  rw [hsplit] at hrun
  have hother : ∀ a ∈ front, entryId a ≠ parentId c := by
    intro a ha heq
    have hnodup := hrun.nodup
    rw [List.map_append, List.map_cons] at hnodup
    exact (List.nodup_append'.mp hnodup).2.2 (List.mem_map_of_mem ha) (by simp [heq, hx])
  obtain ⟨hfront, -, hjoin⟩ := List.isChain_append.mp hrun.isChain
  refine List.isChain_append.mpr ⟨?_, List.isChain_singleton x, ?_⟩
  · exact hfront.imp_of_mem_imp fun a b ha _ hab => (onlyReply_cons_iff (hother a ha)).mpr hab
  · intro a ha b hb
    obtain rfl : x = b := by simpa using hb
    exact (onlyReply_cons_iff (hother a (List.mem_of_getLast? ha))).mpr (hjoin a ha x rfl)

omit hx in
theorem head?_cut : (front ++ [x]).head? = some head := by
  have hstart : (chain cs head).head? = some head := rfl
  rw [← hstart, hsplit]
  cases front <;> rfl

/-- A second reply ends the chain at the comment replied to. -/
theorem chain_cons_cut (hne : entryId x ≠ "") (hreplies : replies cs (entryId x) ≠ []) :
    chain (c :: cs) head = front ++ [x] := by
  refine chain_eq_of_isFullRun (head?_cut hsplit) ⟨isChain_cut hsplit hx, ?_, ?_⟩
  · have hnodup : ((chain cs head).map entryId).Nodup := nodup_chain head
    rw [hsplit] at hnodup
    exact hnodup.sublist (List.Sublist.map _ (List.Sublist.append_left (by simp) front))
  · intro last hlast next hnext
    obtain rfl : x = last := by simpa using hlast
    rw [OnlyReply, replies_cons_self hne hx] at hnext
    exact absurd (List.cons.inj hnext).2 hreplies

/-- A first reply to the last comment of a chain goes on with it. -/
theorem IsFresh.chain_cons_concat (h : IsFresh cs c) (hhead : head ∈ cs) (hne : entryId x ≠ "")
    (hreplies : replies cs (entryId x) = []) : chain (c :: cs) head = chain cs head ++ [c] := by
  have hchain : (chain cs head).IsChain (OnlyReply cs) := chain_isChain head
  rw [hsplit] at hchain
  obtain rfl : rest = [] := by
    cases rest with
    | nil => rfl
    | cons y rest =>
      have hxy : OnlyReply cs x y := (List.isChain_append_cons_cons.mp hchain).2.1
      rw [OnlyReply, hreplies] at hxy
      cases hxy
  have hstart : (chain cs head ++ [c]).head? = some head := rfl
  refine chain_eq_of_isFullRun hstart ⟨?_, ?_, ?_⟩
  · rw [hsplit]
    refine List.isChain_append.mpr ⟨isChain_cut hsplit hx, List.isChain_singleton c, ?_⟩
    intro a ha b hb
    obtain rfl : x = a := by simpa using ha
    obtain rfl : c = b := by simpa using hb
    rw [OnlyReply, replies_cons_self hne hx, hreplies]
  · rw [List.map_append, List.map_singleton, List.nodup_append']
    refine ⟨nodup_chain head, List.nodup_singleton _, ?_⟩
    intro i hi hi'
    obtain rfl := List.mem_singleton.mp hi'
    obtain ⟨d, hd, hid⟩ := List.mem_map.mp hi
    exact h.not_mem_ids (hid ▸ List.mem_map_of_mem (mem_of_mem_chain hhead hd))
  · intro last hlast next hnext
    obtain rfl : c = last := by simpa using hlast
    exact absurd hnext (h.not_onlyReply next)

end Cut

/-- A chain that a new comment replies into is cut behind the comment replied to, or goes on with the new one. -/
theorem IsFresh.chain_cons_of_mem (h : IsFresh cs c) (hne : ∀ d ∈ cs, entryId d ≠ "") {head : C}
    (hhead : head ∈ cs) (hp : parentId c ∈ (chain cs head).map entryId) :
    chain (c :: cs) head <+: chain cs head ∨ chain (c :: cs) head = chain cs head ++ [c] := by
  obtain ⟨x, hx, hid⟩ := List.mem_map.mp hp
  obtain ⟨front, rest, hsplit⟩ := List.append_of_mem hx
  have hxne : entryId x ≠ "" := hne x (mem_of_mem_chain hhead hx)
  by_cases hreplies : replies cs (entryId x) = []
  · exact Or.inr (h.chain_cons_concat hsplit hid hhead hxne hreplies)
  · rw [chain_cons_cut hsplit hid hxne hreplies, hsplit]
    exact Or.inl ⟨rest, by simp⟩

/-! ## Groups -/

/-- The group `g'` is `g` with one comment more: its chain is cut somewhere, stays, or goes on with `c`. -/
structure GrowsBy (c : C) (g g' : Group C) : Prop where
  id_eq : g'.id = g.id
  total_eq : g'.comments.length + g'.moreComments = g.comments.length + g.moreComments + 1
  chain : g'.comments <+: g.comments ∨ g'.comments = g.comments ++ [c]

section Head

variable (hd : (cs.map entryId).Nodup) (hne : ∀ d ∈ cs, entryId d ≠ "") (h : IsFresh cs c) {head : C}
  (hhead : head ∈ cs) (hself : ¬ Under cs (parentId head) (parentId head))

include hd hne h hhead hself

open Classical in
/-- The group of a comment gets one more comment if the new one lies within its head. -/
theorem IsFresh.shown_add_counted_cons :
    (groupAt (c :: cs) head).comments.length + (groupAt (c :: cs) head).moreComments =
      (groupAt cs head).comments.length + (groupAt cs head).moreComments +
        if Within cs (parentId c) (entryId head) then 1 else 0 := by
  have hid : entryId head ≠ entryId c := fun heq => h.not_mem_ids (heq ▸ List.mem_map_of_mem hhead)
  have hparent : parentId head ≠ entryId c := fun heq => h.not_mem_parents (heq ▸ List.mem_map_of_mem hhead)
  have hd' : ((c :: cs).map entryId).Nodup := List.nodup_cons.mpr ⟨h.not_mem_ids, hd⟩
  have hne' : ∀ d ∈ c :: cs, entryId d ≠ "" := List.forall_mem_cons.mpr ⟨h.id_ne, hne⟩
  rw [shown_add_counted hd' hne' (List.mem_cons_of_mem c hhead) (h.not_under_self_cons hparent hself),
    shown_add_counted hd hne hhead hself, h.extent_cons hid]
  split <;> rfl

/-- The group of a comment that the new one does not lie within stays as it is. -/
theorem IsFresh.groupAt_cons_of_not_within (hp : ¬ Within cs (parentId c) (entryId head)) :
    groupAt (c :: cs) head = groupAt cs head := by
  have hchain : chain (c :: cs) head = chain cs head :=
    chain_cons_of_not_mem fun hmem => hp (within_head_iff.mpr (Or.inl hmem))
  have htotal := h.shown_add_counted_cons hd hne hhead hself
  rw [if_neg hp] at htotal
  unfold groupAt at htotal ⊢
  simp only [hchain] at htotal ⊢
  rw [Nat.add_left_cancel htotal]

/-- The group of a comment that the new one lies within grows by it. -/
theorem IsFresh.growsBy_of_within (hp : Within cs (parentId c) (entryId head)) :
    GrowsBy c (groupAt cs head) (groupAt (c :: cs) head) where
  id_eq := rfl
  total_eq := by
    rw [h.shown_add_counted_cons hd hne hhead hself, if_pos hp]
  chain := by
    show chain (c :: cs) head <+: chain cs head ∨ chain (c :: cs) head = chain cs head ++ [c]
    by_cases hmem : parentId c ∈ (chain cs head).map entryId
    · exact h.chain_cons_of_mem hne hhead hmem
    · rw [chain_cons_of_not_mem hmem]
      exact Or.inl (List.prefix_refl _)

end Head

theorem IsFresh.groupAt_self (h : IsFresh cs c) : groupAt (c :: cs) c = ⟨entryId c, [c], 0⟩ := by
  have hend : chainEnd (c :: cs) c = c := by
    have hlast : (chain (c :: cs) c).getLast? = some (chainEnd (c :: cs) c) := getLast?_chain c
    rw [h.chain_self] at hlast
    exact (Option.some.inj hlast).symm
  have hreached : reached (c :: cs) (entryId c) = [entryId c] := by
    rw [reached, h.replies_eq_nil, List.map_nil, reachFrom]
  rw [groupAt, h.chain_self, hend, hreached]
  rfl

/-! ## All groups below an anchor -/

theorem mem_heads {d : C} {i : String} : d ∈ cs.filter (parentId · = i) ↔ d ∈ cs ∧ parentId d = i := by
  rw [List.mem_filter, decide_eq_true_eq]

/-- What becomes of the groups below an anchor when `c` is put between `before` and `after`. -/
structure ChangesOneGroup (before after : List C) (c : C) (anchor : Option String) : Prop where
  /-- A reply to the anchor starts a group of its own, in its place among the others. -/
  starts : parentId c = anchor.getD "" → ∃ gs₁ gs₂,
    groups (before ++ after) anchor = .ok (gs₁ ++ gs₂) ∧
      groups (before ++ c :: after) anchor = .ok (gs₁ ++ ⟨entryId c, [c], 0⟩ :: gs₂) ∧
      gs₁.map (·.id) = (before.filter (parentId · = anchor.getD "")).map entryId
  /-- If the id replied to lies below the anchor, the group whose head is or lies above it grows. -/
  grows : Under (before ++ after) (parentId c) (anchor.getD "") → ∃ gs₁ g g' gs₂,
    groups (before ++ after) anchor = .ok (gs₁ ++ g :: gs₂) ∧
      groups (before ++ c :: after) anchor = .ok (gs₁ ++ g' :: gs₂) ∧ GrowsBy c g g' ∧
      Within (before ++ after) (parentId c) g.id ∧
      ∀ other ∈ gs₁ ++ gs₂, ¬ Within (before ++ after) (parentId c) other.id
  /-- A reply to any other id changes nothing. -/
  stays : parentId c ≠ anchor.getD "" → ¬ Under (before ++ after) (parentId c) (anchor.getD "") →
    ∃ gs, groups (before ++ after) anchor = .ok gs ∧ groups (before ++ c :: after) anchor = .ok gs

section Insert

variable {before after : List C} {anchor : Option String}

/-- The place of a new comment matters for the order of the groups only. -/
theorem groups_insert (before after : List C) (c : C) (anchor : Option String) :
    groups (before ++ c :: after) anchor =
      .ok (((before ++ c :: after).filter (parentId · = anchor.getD "")).map (groupAt (c :: (before ++ after)))) := by
  rw [groups_eq, show groupAt (before ++ c :: after) = groupAt (c :: (before ++ after)) from
    funext (groupAt_of_perm List.perm_middle)]

theorem filter_insert_of_ne {i : String} (hp : parentId c ≠ i) :
    (before ++ c :: after).filter (parentId · = i) = (before ++ after).filter (parentId · = i) := by
  rw [List.filter_append, List.filter_cons_of_neg (by simpa using hp), ← List.filter_append]

variable (hd : ((before ++ after).map entryId).Nodup) (hne : ∀ d ∈ before ++ after, entryId d ≠ "")
  (h : IsFresh (before ++ after) c)
  (hself : ¬ Under (before ++ after) (anchor.getD "") (anchor.getD ""))

include hd hne h hself

/-- Heads that the new comment does not lie within keep their groups. -/
theorem IsFresh.map_groupAt {l : List C}
    (hl : ∀ d ∈ l, d ∈ before ++ after ∧ parentId d = anchor.getD "")
    (hout : ∀ d ∈ l, ¬ Within (before ++ after) (parentId c) (entryId d)) :
    l.map (groupAt (c :: (before ++ after))) = l.map (groupAt (before ++ after)) := by
  refine List.map_congr_left fun d hdl => ?_
  obtain ⟨hcs, hparent⟩ := hl d hdl
  exact h.groupAt_cons_of_not_within hd hne hcs (hparent.symm ▸ hself) (hout d hdl)

/-- A reply to the anchor lies within no other reply to it. -/
theorem IsFresh.starts_group (hp : parentId c = anchor.getD "") : ∃ gs₁ gs₂,
    groups (before ++ after) anchor = .ok (gs₁ ++ gs₂) ∧
      groups (before ++ c :: after) anchor = .ok (gs₁ ++ ⟨entryId c, [c], 0⟩ :: gs₂) ∧
      gs₁.map (·.id) = (before.filter (parentId · = anchor.getD "")).map entryId := by
  have hout : ∀ d, d ∈ before ++ after ∧ parentId d = anchor.getD "" →
      ¬ Within (before ++ after) (parentId c) (entryId d) := by
    rintro d ⟨hcs, hparent⟩ hwithin
    exact hself (under_iff_head.mpr ⟨d, hcs, hparent, hp ▸ hwithin⟩)
  have hfront : ∀ d ∈ before.filter (parentId · = anchor.getD ""),
      d ∈ before ++ after ∧ parentId d = anchor.getD "" := by
    intro d hdm
    exact (mem_heads.mp hdm).imp_left (List.mem_append_left after)
  have hback : ∀ d ∈ after.filter (parentId · = anchor.getD ""),
      d ∈ before ++ after ∧ parentId d = anchor.getD "" := by
    intro d hdm
    exact (mem_heads.mp hdm).imp_left (List.mem_append_right before)
  refine ⟨_, _, by rw [groups_eq, List.filter_append, List.map_append], ?_, ?_⟩
  · rw [groups_insert, List.filter_append, List.filter_cons_of_pos (by simpa using hp), List.map_append,
      List.map_cons, h.groupAt_self, h.map_groupAt hd hne hself hfront fun d hdm => hout d (hfront d hdm),
      h.map_groupAt hd hne hself hback fun d hdm => hout d (hback d hdm)]
  · rw [List.map_map]
    rfl

/-- A reply below the anchor lies within one head only. -/
theorem IsFresh.grows_group (hp : Under (before ++ after) (parentId c) (anchor.getD "")) : ∃ gs₁ g g' gs₂,
    groups (before ++ after) anchor = .ok (gs₁ ++ g :: gs₂) ∧
      groups (before ++ c :: after) anchor = .ok (gs₁ ++ g' :: gs₂) ∧ GrowsBy c g g' ∧
      Within (before ++ after) (parentId c) g.id ∧
      ∀ other ∈ gs₁ ++ gs₂, ¬ Within (before ++ after) (parentId c) other.id := by
  have hother : parentId c ≠ anchor.getD "" := fun heq => hself (heq ▸ hp)
  obtain ⟨head, hhead, hparent, hwithin⟩ := under_iff_head.mp hp
  obtain ⟨l₁, l₂, hsplit⟩ := List.append_of_mem (mem_heads.mpr ⟨hhead, hparent⟩)
  have hnodup : (l₁ ++ head :: l₂).Nodup := hsplit ▸ hd.of_map.filter _
  have hheads : ∀ d ∈ l₁ ++ l₂, d ∈ before ++ after ∧ parentId d = anchor.getD "" := by
    intro d hdl
    have hdm : d ∈ l₁ ++ head :: l₂ := List.perm_middle.mem_iff.mpr (List.mem_cons_of_mem head hdl)
    exact mem_heads.mp (hsplit ▸ hdm)
  have hout : ∀ d ∈ l₁ ++ l₂, ¬ Within (before ++ after) (parentId c) (entryId d) := by
    intro d hdl hw
    obtain ⟨hcs, hdparent⟩ := hheads d hdl
    obtain rfl : d = head := eq_of_within_both hd hcs hhead hself hdparent hparent hw hwithin
    exact (List.nodup_middle.mp hnodup).notMem hdl
  have hkept : (l₁ ++ l₂).map (groupAt (c :: (before ++ after))) = (l₁ ++ l₂).map (groupAt (before ++ after)) :=
    h.map_groupAt hd hne hself hheads hout
  rw [List.map_append, List.map_append] at hkept
  obtain ⟨hkept₁, hkept₂⟩ := List.append_inj hkept (by simp)
  refine ⟨l₁.map (groupAt (before ++ after)), _, _, l₂.map (groupAt (before ++ after)), ?_, ?_,
    h.growsBy_of_within hd hne hhead (hparent.symm ▸ hself) hwithin, hwithin, ?_⟩
  · rw [groups_eq, hsplit, List.map_append, List.map_cons]
  · rw [groups_insert, filter_insert_of_ne hother, hsplit, List.map_append, List.map_cons, hkept₁, hkept₂]
  · rw [← List.map_append]
    intro g hg
    obtain ⟨d, hdl, rfl⟩ := List.mem_map.mp hg
    exact hout d hdl

/-- A reply to an id elsewhere lies within no head. -/
theorem IsFresh.keeps_groups (hother : parentId c ≠ anchor.getD "")
    (hp : ¬ Under (before ++ after) (parentId c) (anchor.getD "")) :
    ∃ gs, groups (before ++ after) anchor = .ok gs ∧ groups (before ++ c :: after) anchor = .ok gs := by
  refine ⟨_, groups_eq anchor, ?_⟩
  rw [groups_insert, filter_insert_of_ne hother, h.map_groupAt hd hne hself fun d hdm => mem_heads.mp hdm]
  intro d hdm hwithin
  obtain ⟨hcs, hparent⟩ := mem_heads.mp hdm
  exact hp (under_iff_head.mpr ⟨d, hcs, hparent, hwithin⟩)

end Insert

/-- **A new reply changes the groups only where it belongs**, wherever it is put into the list, if the anchor is not its
own ancestor. -/
theorem new_reply_changes_one_group {before after : List C} {c : C} {anchor : Option String}
    (hd : ((before ++ after).map entryId).Nodup) (hne : ∀ d ∈ before ++ after, entryId d ≠ "")
    (hself : ∀ a ∈ anchor, ¬ Under (before ++ after) a a) (h : IsFresh (before ++ after) c) :
    ChangesOneGroup before after c anchor where
  starts := h.starts_group hd hne (not_under_anchor hne hself)
  grows := h.grows_group hd hne (not_under_anchor hne hself)
  stays := h.keeps_groups hd hne (not_under_anchor hne hself)

/-- The comments before and behind the place of a new reply to `c`, which cuts the chain of `b`, `c` and `d` below a
comment that is not here; `x` and `y` reply to each other. -/
def cutComments : List Comment × List Comment :=
  ([{ id := "d", repliedComment := "c" }, { id := "x", repliedComment := "y" },
      { id := "b", repliedComment := "gone" }],
    [{ id := "y", repliedComment := "x" }, { id := "c", repliedComment := "b" },
      { id := "f", repliedComment := "gone" }])

theorem new_reply_changes_one_group_cut :
    ((cutComments.1 ++ cutComments.2).map entryId).Nodup ∧
      (∀ d ∈ cutComments.1 ++ cutComments.2, entryId d ≠ "") ∧
      (∀ a ∈ some "gone", ¬ Under (cutComments.1 ++ cutComments.2) a a) ∧
      IsFresh (cutComments.1 ++ cutComments.2) ({ id := "n", repliedComment := "c" } : Comment) ∧
      ChangesOneGroup cutComments.1 cutComments.2 { id := "n", repliedComment := "c" } (some "gone") := by
  have hd : ((cutComments.1 ++ cutComments.2).map entryId).Nodup := by decide
  have hne : ∀ d ∈ cutComments.1 ++ cutComments.2, entryId d ≠ "" := by decide
  have hself : ∀ a ∈ some "gone", ¬ Under (cutComments.1 ++ cutComments.2) a a := by
    rintro _ ⟨⟩ hunder
    exact absurd hunder.mem_ids (by decide)
  have hfresh : IsFresh (cutComments.1 ++ cutComments.2) ({ id := "n", repliedComment := "c" } : Comment) :=
    ⟨by decide, by decide, by decide, by decide⟩
  exact ⟨hd, hne, hself, hfresh, new_reply_changes_one_group hd hne hself hfresh⟩

end Thread

end Hyperlink
