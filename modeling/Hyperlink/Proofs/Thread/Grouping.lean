import Hyperlink.Proofs.Thread.Groups
import Mathlib.Data.Finset.Card
import Mathlib.Data.List.Forall2

/-!
# Hyperlink.Proofs.Thread.Grouping — what the groups below an anchor are

The groups are defined here without the loops that find them, for every list: ids may be empty or occur more than once,
and replies may run in a circle.

* `IsReply`, `LeadsTo`: what counts as a reply to an id, and the step from an id to that of a reply.
* `IsReplyChain`, `IsGroupOf`, `IsGrouping`: the chain and the group that start at a comment, and the groups of a list.
* `isReplyChain_iff`: the chains are the full runs of single replies, so each comment starts one of them.
* `isGroupOf_iff`: each comment has one group.
* `groups_meet_definition`: the groups of a list are what they are defined to be, and nothing else is.
-/

namespace Hyperlink

namespace Thread

open ThreadEntry

variable {C : Type} [ThreadEntry C] {cs : List C}

/-! ## The definition -/

/-- The comment counts as a reply to the id. No comment replies to the empty id. -/
def IsReply (i : String) (c : C) : Prop := i ≠ "" ∧ parentId c = i

instance (i : String) (c : C) : Decidable (IsReply i c) := inferInstanceAs (Decidable (_ ∧ _))

/-- Some reply to the id `i` has the id `j`. -/
def LeadsTo (cs : List C) (i j : String) : Prop := ∃ c ∈ cs, IsReply i c ∧ entryId c = j

/-- A chain of replies that starts at `head`. -/
structure IsReplyChain (cs : List C) (head : C) (l : List C) : Prop where
  head?_eq : l.head? = some head
  /-- Every later comment is the only entry of the list that replies to the one before it. -/
  only : l.IsChain fun a b => cs.filter (IsReply (entryId a) ·) = [b]
  nodup : (l.map entryId).Nodup
  /-- The last comment has no reply, several, or a single one whose id occurs in the chain. -/
  full : ∀ last, l.getLast? = some last →
    cs.filter (IsReply (entryId last) ·) = [] ∨ 2 ≤ (cs.filter (IsReply (entryId last) ·)).length ∨
      ∃ next, cs.filter (IsReply (entryId last) ·) = [next] ∧ entryId next ∈ l.map entryId

/-- The group that starts at `head`. -/
structure IsGroupOf (cs : List C) (head : C) (g : Group C) : Prop where
  id_eq : g.id = entryId head
  chain : IsReplyChain cs head g.comments
  /-- It counts the ids that replies lead to from its last comment, that comment's own id apart. -/
  count : ∀ last, g.comments.getLast? = some last → ∃ below : Finset String,
    (∀ j, j ∈ below ↔ j ≠ entryId last ∧ Relation.TransGen (LeadsTo cs) (entryId last) j) ∧
      g.moreComments = below.card

/-- One group for each comment that replies to the anchor, in the order of the list. -/
def IsGrouping (cs : List C) (anchor : Option String) (gs : List (Group C)) : Prop :=
  List.Forall₂ (IsGroupOf cs) (cs.filter (parentId · = anchor.getD "")) gs

/-! ## Chains -/

theorem replies_eq_filter (i : String) : replies cs i = cs.filter (IsReply i ·) := by
  unfold replies IsReply
  by_cases h : i = ""
  · simp [h]
  · simp [h]

theorem onlyReply_iff {a b : C} : OnlyReply cs a b ↔ cs.filter (IsReply (entryId a) ·) = [b] := by
  rw [OnlyReply, replies_eq_filter]

/-- A list is empty, has several entries, or has a single one with the property iff each single entry has it. -/
theorem nil_or_several_or_single_iff {α : Type} {xs : List α} {p : α → Prop} :
    (xs = [] ∨ 2 ≤ xs.length ∨ ∃ x, xs = [x] ∧ p x) ↔ ∀ x, xs = [x] → p x := by
  cases xs with
  | nil => simp
  | cons x xs =>
    cases xs with
    | nil => simp
    | cons y xs => simp

theorem isReplyChain_iff {head : C} {l : List C} :
    IsReplyChain cs head l ↔ l.head? = some head ∧ IsFullRun (OnlyReply cs) l := by
  constructor
  · intro h
    refine ⟨h.head?_eq, h.only.imp fun _ _ => onlyReply_iff.mpr, h.nodup, ?_⟩
    intro last hlast next hnext
    exact nil_or_several_or_single_iff.mp (h.full last hlast) next (onlyReply_iff.mp hnext)
  · rintro ⟨hhead, hrun⟩
    refine ⟨hhead, hrun.isChain.imp fun _ _ => onlyReply_iff.mp, hrun.nodup, ?_⟩
    intro last hlast
    exact nil_or_several_or_single_iff.mpr fun next hnext => hrun.full last hlast next (onlyReply_iff.mpr hnext)

/-- The chain of replies from a comment is the one that is found. -/
theorem isReplyChain_iff_eq {head : C} {l : List C} : IsReplyChain cs head l ↔ l = chain cs head := by
  rw [isReplyChain_iff]
  constructor
  · rintro ⟨hhead, hrun⟩
    obtain ⟨rest, rfl⟩ := List.head?_eq_some_iff.mp hhead
    have hchain : IsFullRun (OnlyReply cs) (head :: chainAfter cs [entryId head] head) := chain_isFullRun head
    have huniq : ∀ a b b', OnlyReply cs a b → OnlyReply cs a b' → b = b' := fun _ _ _ => OnlyReply.unique
    rw [hrun.unique huniq hchain, chain]
  · rintro rfl
    exact ⟨rfl, chain_isFullRun head⟩

/-! ## Counts -/

theorem answered_eq : Answered cs = LeadsTo cs := by
  funext i j
  rw [Answered, replies_eq_filter]
  simp [LeadsTo, and_assoc]

/-- The search finds the ids that replies lead to, besides the one it starts from. -/
theorem mem_reached_erase {i j : String} :
    j ∈ (reached cs i).toFinset.erase i ↔ j ≠ i ∧ Relation.TransGen (LeadsTo cs) i j := by
  rw [Finset.mem_erase, List.mem_toFinset, mem_reached, answered_eq, Relation.reflTransGen_iff_eq_or_transGen]
  refine and_congr_right fun hne => ?_
  simp [hne]

theorem card_reached_erase (i : String) : ((reached cs i).toFinset.erase i).card = (reached cs i).length - 1 := by
  rw [Finset.card_erase_of_mem (List.mem_toFinset.mpr (mem_reached.mpr .refl)),
    List.toFinset_card_of_nodup (nodup_reached i)]

/-! ## Groups -/

/-- The group of a comment is the one that is found. -/
theorem isGroupOf_iff {head : C} {g : Group C} : IsGroupOf cs head g ↔ g = groupAt cs head := by
  constructor
  · intro h
    obtain ⟨id, comments, moreComments⟩ := g
    obtain rfl : id = entryId head := h.id_eq
    obtain rfl : comments = chain cs head := isReplyChain_iff_eq.mp h.chain
    obtain ⟨below, hbelow, hcount⟩ := h.count _ (getLast?_chain head)
    have hsame : below = (reached cs (entryId (chainEnd cs head))).toFinset.erase (entryId (chainEnd cs head)) := by
      ext j
      rw [hbelow, mem_reached_erase]
    rw [hsame, card_reached_erase] at hcount
    rw [groupAt]
    exact congrArg _ hcount
  · rintro rfl
    refine ⟨rfl, isReplyChain_iff_eq.mpr rfl, ?_⟩
    intro last hlast
    obtain rfl := Option.some.inj ((getLast?_chain head).symm.trans hlast)
    exact ⟨_, fun j => mem_reached_erase, (card_reached_erase _).symm⟩

/-- **The groups below an anchor are what they are defined to be**, on every list: they can be read, and no other list of
groups meets the definition. -/
theorem groups_meet_definition (cs : List C) (anchor : Option String) :
    ∃ gs, groups cs anchor = .ok gs ∧ ∀ gs', IsGrouping cs anchor gs' ↔ gs' = gs := by
  refine ⟨_, groups_eq anchor, fun gs' => ?_⟩
  have hgroup : IsGroupOf cs = fun head g => groupAt cs head = g := by
    funext head g
    rw [isGroupOf_iff]
    exact propext eq_comm
  rw [IsGrouping, hgroup, eq_comm, ← List.forall₂_eq_eq_eq]
  exact List.forall₂_map_left_iff.symm

end Thread

end Hyperlink
