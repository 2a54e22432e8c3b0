import Hyperlink.Json.Reader
import Hyperlink.Proofs.Thread.Ancestry
import Hyperlink.Proofs.Thread.Lineage

/-!
# Hyperlink.Proofs.Thread.Start — where a thread starts

A comment whose reply id is empty stands at the top level, and a thread should start there. But the walk up looks for a
comment with the empty id as it does for any other, and puts it above if there is one.

* `StartsAtTop`: nothing but the leading `none` stands in front of a comment of the top level.
* `startsAtTop_run_iff`: a thread starts at the top level iff no comment above its target has the empty id.
* `tops_start_threads_iff`: **on which lists every thread starts at the top level.** In groups nothing is ever put in
  front of a comment of the top level.
* `thread_climbs_past_top`: a list with a thread that does not start there.
-/

namespace Hyperlink

namespace Thread

open ThreadEntry

variable {C : Type} [ThreadEntry C] {cs : List C}

/-- A comment of the top level can only stand right behind the leading `none`. -/
def StartsAtTop (thread : List (Option C)) : Prop :=
  ∀ front c rest, thread = front ++ some c :: rest → parentId c = "" → front = [none]

/-! ## Runs upwards -/

/-- A thread starts at the top level iff the way up from its target does not lead on from a comment of the top level. -/
theorem startsAtTop_reverse {l : List C} :
    StartsAtTop (none :: l.reverse.map some) ↔ l.IsChain fun a _ => parentId a ≠ "" := by
  rw [List.isChain_iff_forall_rel_of_append_cons_cons]
  constructor
  · rintro h a b below above rfl htop
    have hsplit : none :: (below ++ a :: b :: above).reverse.map some =
        (none :: (b :: above).reverse.map some) ++ some a :: below.reverse.map some := by simp
    have hfront := h _ _ _ hsplit htop
    simp at hfront
  · intro h front c rest hsplit htop
    cases front with
    | nil => simp at hsplit
    | cons first front =>
      obtain ⟨rfl, hback⟩ := List.cons_eq_cons.mp hsplit
      obtain ⟨above, tail, hl, rfl, htail⟩ := List.map_eq_append_iff.mp hback
      obtain ⟨d, below, rfl, hd, rfl⟩ := List.map_eq_cons_iff.mp htail
      obtain rfl := Option.some.inj hd
      rcases List.eq_nil_or_concat above with rfl | ⟨above, b, rfl⟩
      · rfl
      · have hway : l = below.reverse ++ d :: b :: above.reverse := by
          rw [← l.reverse_reverse, hl]
          simp
        exact absurd htop (h hway)

/-- On a way up the reply id of a comment is the id of the next one. -/
theorem isChain_parentId_iff {l : List C} (h : l.IsChain (IsParent cs)) :
    (l.IsChain fun a _ => parentId a ≠ "") ↔ ∀ d ∈ l.tail, entryId d ≠ "" := by
  induction l with
  | nil => simp
  | cons a l ih =>
    cases l with
    | nil => simp
    | cons b l =>
      obtain ⟨hb, hrest⟩ := List.isChain_cons_cons.mp h
      have hid : entryId b = parentId a := hb.1
      rw [List.isChain_cons_cons, ih hrest, List.tail_cons, List.tail_cons, List.forall_mem_cons, hid]

/-- **A thread starts at the top level** iff no comment above the target has the empty id. -/
theorem startsAtTop_run_iff {l : List C} (h : l.IsChain (IsParent cs)) :
    StartsAtTop (none :: l.reverse.map some) ↔ ∀ d ∈ l.tail, entryId d ≠ "" :=
  startsAtTop_reverse.trans (isChain_parentId_iff h)

/-! ## Threads -/

theorem mem_ancestry {target : String} {c : C} (hc : find? cs target = some c) {d : C} :
    some d ∈ ancestry cs target ↔ d ∈ c :: above cs [entryId c] c := by
  rw [ancestry_of_find?_eq_some hc]
  simp [or_comm]

/-- The thread of a target starts at the top level, unless a comment with the empty id is put above the target. -/
theorem startsAtTop_ancestry_iff {target : String} :
    StartsAtTop (ancestry cs target) ↔ target = "" ∨ ∀ c, some c ∈ ancestry cs target → entryId c ≠ "" := by
  cases hfind : find? cs target with
  | none =>
    have hnone : ancestry cs target = none :: ([] : List C).reverse.map some := ancestry_of_find?_eq_none hfind
    rw [hnone, startsAtTop_reverse]
    simp
  | some c =>
    have hrun : IsFullRun (IsParent cs) (c :: above cs [entryId c] c) := above_isFullRun c
    obtain ⟨-, rfl⟩ := find?_eq_some hfind
    have hfront : (∀ d, some d ∈ ancestry cs (entryId c) → entryId d ≠ "") ↔
        ∀ d ∈ c :: above cs [entryId c] c, entryId d ≠ "" :=
      forall_congr' fun d => by rw [mem_ancestry hfind]
    rw [hfront, List.forall_mem_cons, ancestry_of_find?_eq_some hfind, startsAtTop_run_iff hrun.isChain, List.tail_cons]
    constructor
    · intro h
      by_cases hempty : entryId c = ""
      · exact Or.inl hempty
      · exact Or.inr ⟨hempty, h⟩
    · rintro (hempty | ⟨-, h⟩)
      · -- the target has the empty id itself, and no id repeats above it
        intro d hd hid
        have hmem : entryId d ∈ (above cs [entryId c] c).map entryId := List.mem_map_of_mem hd
        rw [hid, ← hempty] at hmem
        exact (List.nodup_cons.mp hrun.nodup).1 hmem
      · exact h

/-- If the first comment with an id stands at the top level, a comment with the empty id is put above it. -/
theorem not_startsAtTop {i : String} (hi : i ≠ "") {c : C} (hc : IsFirst cs i c) (htop : parentId c = "")
    {e : C} (he : e ∈ cs) (hempty : entryId e = "") : ¬ StartsAtTop (ancestry cs i) := by
  have hfind := find?_eq_some_iff.mpr hc
  obtain rfl : entryId c = i := hc.1
  cases hparent : find? cs (parentId c) with
  | none =>
    rw [find?_eq_none_iff, htop, ← hempty] at hparent
    exact absurd (List.mem_map_of_mem he) hparent
  | some parent =>
    obtain ⟨hmem, hid⟩ := find?_eq_some hparent
    rw [htop] at hid
    have hnew : IsNew cs [entryId c] (entryId parent) := by
      refine ⟨?_, List.mem_map_of_mem hmem⟩
      rw [List.mem_singleton, hid]
      exact hi.symm
    rw [startsAtTop_ancestry_iff, not_or]
    refine ⟨hi, fun h => h parent ?_ hid⟩
    rw [mem_ancestry hfind, above_of_isNew hparent hnew]
    simp

/-- Every thread of a list starts at the top level iff no comment has the empty id, or no thread of another id meets the
top level. -/
theorem forall_startsAtTop_iff :
    (∀ target, StartsAtTop (ancestry cs target)) ↔
      (∀ c ∈ cs, entryId c ≠ "") ∨ ∀ i c, i ≠ "" → IsFirst cs i c → parentId c ≠ "" := by
  constructor
  · intro h
    by_cases hempty : ∀ c ∈ cs, entryId c ≠ ""
    · exact Or.inl hempty
    · push Not at hempty
      obtain ⟨e, he, hid⟩ := hempty
      exact Or.inr fun i c hi hc htop => not_startsAtTop hi hc htop he hid (h i)
  · intro h target
    have hstep : ∀ a b, IsParent cs a b → IsFirst cs (entryId a) a ∧ entryId a ≠ "" →
        IsFirst cs (entryId b) b ∧ entryId b ≠ "" := by
      rintro a b hb ⟨ha, hne⟩
      have hid : entryId b = parentId a := hb.1
      refine ⟨hid ▸ hb, ?_⟩
      rcases h with h | h
      · exact h b hb.mem
      · exact hid ▸ h (entryId a) a hne ha
    rw [startsAtTop_ancestry_iff]
    by_cases hempty : target = ""
    · exact Or.inl hempty
    · refine Or.inr ?_
      cases hfind : find? cs target with
      | none => simp [ancestry_of_find?_eq_none hfind]
      | some c =>
        have hc := find?_eq_some_iff.mp hfind
        obtain rfl : entryId c = target := hc.1
        intro d hd
        rw [mem_ancestry hfind] at hd
        exact ((above_isFullRun c).isChain.induction _ _ hstep (fun _ => ⟨hc, hempty⟩) d hd).2

/-! ## Groups -/

/-- Behind the first comment of a chain there are replies only. -/
theorem parentId_ne_of_mem_tail {l : List C} (h : l.IsChain (OnlyReply cs)) {c : C} (hc : c ∈ l.tail) :
    parentId c ≠ "" := by
  induction l with
  | nil => simp at hc
  | cons a l ih =>
    cases l with
    | nil => simp at hc
    | cons b l =>
      obtain ⟨hb, hrest⟩ := List.isChain_cons_cons.mp h
      rcases List.mem_cons.mp hc with rfl | hc
      · obtain ⟨hne, -, hparent⟩ := mem_replies.mp hb.mem_replies
        exact hparent ▸ hne
      · exact ih hrest hc

/-- **On which lists threads start at the top level.** A thread does iff its target has the empty id or no comment of
the thread has; all threads of a list do iff no comment has the empty id, or the first comment with any other id is a
reply. In groups a comment of the top level can only stand first, on every list. -/
theorem tops_start_threads_iff (cs : List C) :
    (∀ target, StartsAtTop (ancestry cs target) ↔
      target = "" ∨ ∀ c, some c ∈ ancestry cs target → entryId c ≠ "") ∧
    ((∀ target, StartsAtTop (ancestry cs target)) ↔
      (∀ c ∈ cs, entryId c ≠ "") ∨ ∀ i c, i ≠ "" → IsFirst cs i c → parentId c ≠ "") ∧
    ∀ anchor, ∃ gs, groups cs anchor = .ok gs ∧ ∀ g ∈ gs, ∀ c ∈ g.comments.tail, parentId c ≠ "" := by
  refine ⟨fun _ => startsAtTop_ancestry_iff, forall_startsAtTop_iff, fun anchor => ⟨_, groups_eq anchor, ?_⟩⟩
  intro g hg c hc
  obtain ⟨head, -, rfl, -⟩ := exists_head_of_mem_groups (groups_eq anchor) hg
  exact parentId_ne_of_mem_tail (chain_isChain head) hc

/-- The text of a list in which the first comment has the empty id. -/
def emptyIdText : String := "[\x7b\"id\":\"\"\x7d,\x7b\"id\":\"c\"\x7d]"

theorem comments_of_emptyIdText :
    (Json.parse? emptyIdText).bind Comment.listOfJson? = some [{ id := "" }, { id := "c" }] := by
  have htokens : Json.Token.ofChars? emptyIdText.toList =
      some [.openArray, .openObject, .string (some "id"), .colon, .string (some ""), .closeObject, .comma, .openObject,
        .string (some "id"), .colon, .string (some "c"), .closeObject, .closeArray] := by
    decide +kernel
  rw [Json.parse?, htokens]
  rfl

/-- A list with a thread that does not start at the top level. -/
theorem thread_climbs_past_top :
    ∃ cs : List Comment, (Json.parse? emptyIdText).bind Comment.listOfJson? = some cs ∧
      ¬ StartsAtTop (ancestry cs "c") := by
  refine ⟨_, comments_of_emptyIdText, ?_⟩
  have hc : IsFirst [({ id := "" } : Comment), { id := "c" }] "c" { id := "c" } :=
    ⟨rfl, [{ id := "" }], [], rfl, by decide⟩
  exact not_startsAtTop (by decide) hc rfl List.mem_cons_self rfl

end Thread

end Hyperlink
