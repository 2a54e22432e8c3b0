import Hyperlink.Proofs.Thread.Descent
import Hyperlink.Proofs.Thread.Walk

/-!
# Hyperlink.Proofs.Thread.Groups — what the groups below an anchor hold

* `chain_isFullRun`: in a chain every comment is the only reply to the one before it, no id repeats, and the chain goes
  on as long as that holds.
* `within_head_iff`: what lies below the head of a chain is the rest of the chain or lies below its last comment.
* `mem_reached`, `nodup_reached`: the search finds the ids that replies lead to, each once.
* `groups_eq`: reading the groups never fails; each reply to the anchor has the group `groupAt`.
-/

namespace Hyperlink

namespace Thread

open ThreadEntry

variable {C : Type} [ThreadEntry C] {cs : List C}

theorem mem_replies {c : C} {i : String} : c ∈ replies cs i ↔ i ≠ "" ∧ c ∈ cs ∧ parentId c = i := by
  unfold replies
  by_cases h : i = ""
  · simp [h]
  · simp [h]

/-! ## Chains -/

/-- The comment `b` is the only reply to `a`. -/
def OnlyReply (cs : List C) (a b : C) : Prop := replies cs (entryId a) = [b]

theorem chainAfter_of_isNew {seen : List String} {tail next : C} (h : OnlyReply cs tail next)
    (hnew : IsNew cs seen (entryId next)) :
    chainAfter cs seen tail = next :: chainAfter cs (entryId next :: seen) next := by
  rw [chainAfter, h]
  simp only [if_pos hnew]

theorem chainAfter_of_not_isNew {seen : List String} {tail next : C} (h : OnlyReply cs tail next)
    (hnew : ¬ IsNew cs seen (entryId next)) : chainAfter cs seen tail = [] := by
  rw [chainAfter, h]
  simp only [if_neg hnew]

theorem chainAfter_of_not_onlyReply {seen : List String} {tail : C} (h : ∀ next, ¬ OnlyReply cs tail next) :
    chainAfter cs seen tail = [] := by
  rw [chainAfter]
  split
  · next next hnext => exact absurd hnext (h next)
  · rfl

theorem OnlyReply.mem_replies {a b : C} (h : OnlyReply cs a b) : b ∈ replies cs (entryId a) :=
  h ▸ List.mem_singleton_self b

theorem OnlyReply.mem {a b : C} (h : OnlyReply cs a b) : b ∈ cs :=
  (Thread.mem_replies.mp h.mem_replies).2.1

theorem OnlyReply.unique {a b b' : C} (h : OnlyReply cs a b) (h' : OnlyReply cs a b') : b = b' := by
  simpa using h.symm.trans h'

/-- A chain goes from single reply to single reply. -/
theorem walks_chainAfter (seen : List String) (tail : C) :
    Walks cs (OnlyReply cs) seen tail (chainAfter cs seen tail) := by
  induction seen, tail using chainAfter.induct cs with
  | case1 seen tail next hreply hnew ih =>
    rw [chainAfter_of_isNew hreply hnew]
    exact .go hreply hnew ih
  | case2 seen tail next hreply hnew =>
    rw [chainAfter_of_not_isNew hreply hnew]
    exact .stop fun b hb => OnlyReply.unique hreply hb ▸ hnew
  | case3 seen tail hreply =>
    rw [chainAfter_of_not_onlyReply hreply]
    exact .stop fun b hb => absurd hb (hreply b)

theorem chain_isFullRun (head : C) : IsFullRun (OnlyReply cs) (chain cs head) :=
  (walks_chainAfter _ head).isFullRun fun _ _ => OnlyReply.mem

/-- In a chain every comment is the only reply to the one before it. -/
theorem chain_isChain (head : C) : (chain cs head).IsChain (OnlyReply cs) :=
  (chain_isFullRun head).isChain

/-- No id occurs twice in a chain. -/
theorem nodup_chain (head : C) : ((chain cs head).map entryId).Nodup :=
  (chain_isFullRun head).nodup

/-- Below a comment with a single reply lies that reply and what is below it. -/
theorem OnlyReply.under_iff {a b : C} (h : OnlyReply cs a b) {i : String} :
    Under cs i (entryId a) ↔ Within cs i (entryId b) := by
  obtain ⟨hne, hb, hparent⟩ := Thread.mem_replies.mp h.mem_replies
  rw [under_iff_head]
  constructor
  · rintro ⟨d, hd, hdparent, hwithin⟩
    have hmem : d ∈ replies cs (entryId a) := Thread.mem_replies.mpr ⟨hne, hd, hdparent⟩
    rw [h, List.mem_singleton] at hmem
    exact hmem ▸ hwithin
  · intro hwithin
    exact ⟨b, hb, hparent, hwithin⟩

/-- Below the head of a chain lies the rest of the chain and what is below its last comment. -/
theorem within_iff_of_isChain {i : String} {l : List C} {head last : C}
    (hchain : (head :: l).IsChain (OnlyReply cs)) (hlast : (head :: l).getLast? = some last) :
    Within cs i (entryId head) ↔ i ∈ (head :: l).map entryId ∨ Under cs i (entryId last) := by
  induction l generalizing head with
  | nil =>
    obtain rfl : head = last := by simpa using hlast
    simp [within_iff]
  | cons b l ih =>
    obtain ⟨hb, hrest⟩ := List.isChain_cons_cons.mp hchain
    rw [List.getLast?_cons_cons] at hlast
    rw [within_iff, hb.under_iff, ih hrest hlast]
    simp only [List.map_cons, List.mem_cons, or_assoc]

/-- The last comment of a chain is any of the others or lies below it. -/
theorem last_within_of_isChain {l : List C} {head last c : C} (hchain : (head :: l).IsChain (OnlyReply cs))
    (hlast : (head :: l).getLast? = some last) (hc : c ∈ head :: l) : Within cs (entryId last) (entryId c) := by
  induction l generalizing head c with
  | nil =>
    obtain rfl : head = last := by simpa using hlast
    rw [List.mem_singleton.mp hc]
    exact .refl
  | cons b l ih =>
    obtain ⟨hb, hrest⟩ := List.isChain_cons_cons.mp hchain
    rw [List.getLast?_cons_cons] at hlast
    rcases List.mem_cons.mp hc with rfl | hc
    · exact within_iff.mpr (Or.inr (hb.under_iff.mpr (ih hrest hlast List.mem_cons_self)))
    · exact ih hrest hlast hc

/-- The last comment of the chain from `head`. -/
def chainEnd (cs : List C) (head : C) : C := (chain cs head).getLast (List.cons_ne_nil _ _)

theorem getLast?_chain (head : C) : (chain cs head).getLast? = some (chainEnd cs head) :=
  List.getLast?_eq_some_getLast _

theorem mem_of_mem_chain {head c : C} (hhead : head ∈ cs) (hc : c ∈ chain cs head) : c ∈ cs :=
  mem_of_isChain (fun _ _ => OnlyReply.mem) hhead (chain_isChain head) hc

theorem chainEnd_mem {head : C} (hhead : head ∈ cs) : chainEnd cs head ∈ cs :=
  mem_of_mem_chain hhead (List.getLast_mem _)

theorem chainEnd_within {head c : C} (hc : c ∈ chain cs head) : Within cs (entryId (chainEnd cs head)) (entryId c) :=
  last_within_of_isChain (chain_isChain head) (getLast?_chain head) hc

theorem within_head_iff {head : C} {i : String} :
    Within cs i (entryId head) ↔ i ∈ (chain cs head).map entryId ∨ Under cs i (entryId (chainEnd cs head)) :=
  within_iff_of_isChain (chain_isChain head) (getLast?_chain head)

/-! ## Searching downwards -/

/-- Some comment with the id `j` counts as a reply to `i`. -/
def Answered (cs : List C) (i j : String) : Prop := j ∈ (replies cs i).map entryId

theorem Answered.mem_ids {i j : String} (h : Answered cs i j) : j ∈ cs.map entryId := by
  obtain ⟨c, hc, hid⟩ := List.mem_map.mp h
  exact List.mem_map.mpr ⟨c, (mem_replies.mp hc).2.1, hid⟩

theorem nodup_reachFrom (found todo : List String) (h : found.Nodup) : (reachFrom cs found todo).Nodup := by
  induction found, todo using reachFrom.induct cs with
  | case1 found => rwa [reachFrom]
  | case2 found i todo hnew ih =>
    rw [reachFrom, if_pos hnew]
    exact ih (List.nodup_cons.mpr ⟨hnew.1, h⟩)
  | case3 found i todo hnew ih =>
    rw [reachFrom, if_neg hnew]
    exact ih h

/-- The search adds only ids that replies lead to from one still to visit. -/
theorem reachFrom_sound {found todo : List String} {j : String} (h : j ∈ reachFrom cs found todo) :
    j ∈ found ∨ ∃ i ∈ todo, Relation.ReflTransGen (Answered cs) i j := by
  induction found, todo using reachFrom.induct cs with
  | case1 found =>
    rw [reachFrom] at h
    exact Or.inl h
  | case2 found i todo hnew ih =>
    rw [reachFrom, if_pos hnew] at h
    rcases ih h with hfound | ⟨k, hk, hkj⟩
    · rcases List.mem_cons.mp hfound with rfl | hfound
      · exact Or.inr ⟨j, List.mem_cons_self, .refl⟩
      · exact Or.inl hfound
    · rcases List.mem_append.mp hk with hk | hk
      · exact Or.inr ⟨k, List.mem_cons_of_mem _ hk, hkj⟩
      · exact Or.inr ⟨i, List.mem_cons_self, hkj.head hk⟩
  | case3 found i todo hnew ih =>
    rw [reachFrom, if_neg hnew] at h
    rcases ih h with hfound | ⟨k, hk, hkj⟩
    · exact Or.inl hfound
    · exact Or.inr ⟨k, List.mem_cons_of_mem _ hk, hkj⟩

theorem mem_reachFrom_of_mem {found todo : List String} {i : String} (h : i ∈ found) : i ∈ reachFrom cs found todo := by
  induction found, todo using reachFrom.induct cs with
  | case1 found => rwa [reachFrom]
  | case2 found k todo hnew ih =>
    rw [reachFrom, if_pos hnew]
    exact ih (List.mem_cons_of_mem _ h)
  | case3 found k todo hnew ih =>
    rw [reachFrom, if_neg hnew]
    exact ih h

/-- The search is finished only when the replies to all ids found are found too, provided that every such reply was
found or still to visit before. -/
theorem reachFrom_closed {found todo : List String} (h : ∀ i ∈ found, ∀ j, Answered cs i j → j ∈ found ∨ j ∈ todo)
    {i j : String} (hi : i ∈ reachFrom cs found todo) (hij : Answered cs i j) : j ∈ reachFrom cs found todo := by
  induction found, todo using reachFrom.induct cs with
  | case1 found =>
    rw [reachFrom] at hi ⊢
    exact (h i hi j hij).resolve_right List.not_mem_nil
  | case2 found k todo hnew ih =>
    rw [reachFrom, if_pos hnew] at hi ⊢
    refine ih ?_ hi
    intro l hl m hlm
    rcases List.mem_cons.mp hl with rfl | hl
    · exact Or.inr (List.mem_append_right _ hlm)
    · rcases h l hl m hlm with hm | hm
      · exact Or.inl (List.mem_cons_of_mem _ hm)
      · rcases List.mem_cons.mp hm with rfl | hm
        · exact Or.inl List.mem_cons_self
        · exact Or.inr (List.mem_append_left _ hm)
  | case3 found k todo hnew ih =>
    rw [reachFrom, if_neg hnew] at hi ⊢
    refine ih ?_ hi
    intro l hl m hlm
    rcases h l hl m hlm with hm | hm
    · exact Or.inl hm
    · rcases List.mem_cons.mp hm with rfl | hm
      -- an id that is skipped is that of a comment here, so it has been found
      · exact Or.inl (not_not.mp fun hm => hnew ⟨hm, hlm.mem_ids⟩)
      · exact Or.inr hm

/-- The search from an id finds that id and the ids that replies lead to from it. -/
theorem mem_reached {i j : String} : j ∈ reached cs i ↔ Relation.ReflTransGen (Answered cs) i j := by
  constructor
  · intro h
    rcases reachFrom_sound h with hj | ⟨k, hk, hkj⟩
    · rw [List.mem_singleton.mp hj]
    · exact hkj.head hk
  · intro h
    induction h with
    | refl => exact mem_reachFrom_of_mem List.mem_cons_self
    | tail _ hstep ih =>
      refine reachFrom_closed ?_ ih hstep
      intro l hl m hlm
      exact Or.inr (List.mem_singleton.mp hl ▸ hlm)

/-- The search finds no id twice. -/
theorem nodup_reached (i : String) : (reached cs i).Nodup := nodup_reachFrom _ _ (List.nodup_singleton i)

/-- Without empty ids the search finds the id itself and what lies below it. -/
theorem mem_reached_iff_within (hne : ∀ c ∈ cs, entryId c ≠ "") {i j : String} (hi : i ≠ "") :
    j ∈ reached cs i ↔ Within cs j i := by
  have hanswered : ∀ {k l : String}, Answered cs k l ↔ k ≠ "" ∧ RepliesTo cs l k := by
    intro k l
    constructor
    · intro h
      obtain ⟨c, hc, hid⟩ := List.mem_map.mp h
      obtain ⟨hk, hcs, hparent⟩ := mem_replies.mp hc
      exact ⟨hk, c, hcs, hid, hparent⟩
    · rintro ⟨hk, c, hcs, hid, hparent⟩
      exact List.mem_map.mpr ⟨c, mem_replies.mpr ⟨hk, hcs, hparent⟩, hid⟩
  rw [mem_reached]
  constructor
  · intro h
    induction h with
    | refl => exact .refl
    | tail _ hstep ih => exact ih.head (hanswered.mp hstep).2
  · intro h
    induction h using Relation.ReflTransGen.head_induction_on with
    | refl => exact .refl
    | head hstep hrest ih =>
      refine ih.tail (hanswered.mpr ⟨?_, hstep⟩)
      -- the id replied to is the one searched from or that of a comment
      rcases within_iff.mp hrest with rfl | hunder
      · exact hi
      · obtain ⟨c, hc, hid⟩ := List.mem_map.mp hunder.mem_ids
        exact hid ▸ hne c hc

/-! ## Groups -/

/-- The group of the chain from `head`. -/
def groupAt (cs : List C) (head : C) : Group C :=
  ⟨entryId head, chain cs head, (reached cs (entryId (chainEnd cs head))).length - 1⟩

theorem countBelow_eq (i : String) : countBelow cs i = .ok ((reached cs i).length - 1) := by
  have hpos : 0 < (reached cs i).length := List.length_pos_of_mem (mem_reached.mpr .refl)
  obtain ⟨n, hn⟩ := Nat.exists_eq_succ_of_ne_zero hpos.ne'
  rw [countBelow, hn]
  rfl

theorem group_eq (head : C) : group cs head = .ok (groupAt cs head) := by
  have hlast : Fault.lastOf (chain cs head) = .ok (chainEnd cs head) := by
    rw [Fault.lastOf, getLast?_chain]
  simp only [group, hlast, countBelow_eq, bind, Except.bind]
  rfl

/-- The groups below an anchor are those of the chains from the replies to it. -/
theorem groups_eq (anchor : Option String) :
    groups cs anchor = .ok ((cs.filter (parentId · = anchor.getD "")).map (groupAt cs)) := by
  have hgroup : group cs = fun head => pure (groupAt cs head) := funext group_eq
  rw [groups, hgroup, List.mapM_pure]
  rfl

theorem exists_head_of_mem_groups {anchor : Option String} {gs : List (Group C)} {g : Group C}
    (hgs : groups cs anchor = .ok gs) (hg : g ∈ gs) :
    ∃ head ∈ cs, groupAt cs head = g ∧ parentId head = anchor.getD "" := by
  rw [groups_eq] at hgs
  rw [← Except.ok.inj hgs] at hg
  obtain ⟨head, hhead, hgroup⟩ := List.mem_map.mp hg
  obtain ⟨hcs, hparent⟩ := List.mem_filter.mp hhead
  exact ⟨head, hcs, hgroup, of_decide_eq_true hparent⟩

end Thread

end Hyperlink
