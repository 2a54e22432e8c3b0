import Hyperlink.Proofs.Thread.Groups
import Hyperlink.Comment

/-!
# Hyperlink.Proofs.Thread.Drill — drilling down shows every comment once

Whoever drills down from an anchor sees for each of its groups the chain and then, drilled down likewise, the groups
below the last comment of the chain.

* `Emits`, `Drills`: what drilling down shows, as a finite derivation; `Met`: the groups that come up on the way.
* `Emits.unique`: drilling down shows one list only.
* `ListsOnce`: a list of the comments with some property, each once; `listsOnce_group`: so is a chain with what is
  shown below it.
* `exists_drills`: below an id that is not its own ancestor drilling down ends.
* `drill_shows_each_once`: it shows each comment below the anchor once, and every group counts what it hides.
-/

namespace Hyperlink

namespace Thread

open ThreadEntry

variable {C : Type} [ThreadEntry C] {cs : List C}

/-- Drilling down the groups `gs` ends and shows the comments `out` in this order. -/
inductive Emits (cs : List C) : List (Group C) → List C → Prop
  | nil : Emits cs [] []
  | cons {g : Group C} {gs below : List (Group C)} {last : C} {inner outer : List C}
      (hlast : g.comments.getLast? = some last) (hbelow : groups cs (some (entryId last)) = .ok below)
      (hinner : Emits cs below inner) (houter : Emits cs gs outer) :
      Emits cs (g :: gs) (g.comments ++ inner ++ outer)

/-- Drilling down from the anchor ends and shows the comments `out` in this order. -/
def Drills (cs : List C) (anchor : Option String) (out : List C) : Prop :=
  ∃ gs, groups cs anchor = .ok gs ∧ Emits cs gs out

/-- The group comes up when drilling down from the anchor. -/
inductive Met (cs : List C) : Option String → Group C → Prop
  | here {anchor : Option String} {gs : List (Group C)} {g : Group C} (hgs : groups cs anchor = .ok gs) (hg : g ∈ gs) :
      Met cs anchor g
  | deeper {anchor : Option String} {gs : List (Group C)} {g g' : Group C} {last : C}
      (hgs : groups cs anchor = .ok gs) (hg : g ∈ gs) (hlast : g.comments.getLast? = some last)
      (hmet : Met cs (some (entryId last)) g') : Met cs anchor g'

/-- Drilling down shows one list only. -/
theorem Emits.unique {gs : List (Group C)} {out out' : List C} (h : Emits cs gs out) (h' : Emits cs gs out') :
    out' = out := by
  induction h generalizing out' with
  | nil =>
    cases h'
    rfl
  | cons hlast hbelow _ _ ihinner ihouter =>
    cases h' with
    | cons hlast' hbelow' hinner' houter' =>
      obtain rfl := Option.some.inj (hlast.symm.trans hlast')
      obtain rfl := Except.ok.inj (hbelow.symm.trans hbelow')
      rw [ihinner hinner', ihouter houter']

theorem Drills.unique {anchor : Option String} {out out' : List C} (h : Drills cs anchor out)
    (h' : Drills cs anchor out') : out' = out := by
  obtain ⟨gs, hgs, hemits⟩ := h
  obtain ⟨gs', hgs', hemits'⟩ := h'
  obtain rfl := Except.ok.inj (hgs.symm.trans hgs')
  exact hemits.unique hemits'

/-! ## Lists of comments without repetition -/

/-- The list holds the comments whose ids satisfy `p`, each once. -/
structure ListsOnce (cs : List C) (p : String → Prop) (out : List C) : Prop where
  nodup : (out.map entryId).Nodup
  mem_iff : ∀ c, c ∈ out ↔ c ∈ cs ∧ p (entryId c)

theorem ListsOnce.congr {p q : String → Prop} {out : List C} (h : ListsOnce cs p out) (hpq : ∀ i, p i ↔ q i) :
    ListsOnce cs q out :=
  ⟨h.nodup, fun c => (h.mem_iff c).trans (and_congr_right fun _ => hpq _)⟩

theorem ListsOnce.append {p q : String → Prop} {out out' : List C} (h : ListsOnce cs p out) (h' : ListsOnce cs q out')
    (hpq : ∀ i, p i → ¬ q i) : ListsOnce cs (fun i => p i ∨ q i) (out ++ out') := by
  constructor
  · rw [List.map_append]
    refine List.nodup_append'.mpr ⟨h.nodup, h'.nodup, ?_⟩
    intro i hi hi'
    obtain ⟨c, hc, rfl⟩ := List.mem_map.mp hi
    obtain ⟨d, hdm, hid⟩ := List.mem_map.mp hi'
    exact hpq _ ((h.mem_iff c).mp hc).2 (hid ▸ ((h'.mem_iff d).mp hdm).2)
  · intro c
    rw [List.mem_append, h.mem_iff, h'.mem_iff, and_or_left]

/-- Together with an id that is not among its comments, such a list has as many ids as any other one of them. -/
theorem ListsOnce.length_eq {i : String} {p : String → Prop} {out : List C} {ids : List String}
    (h : ListsOnce cs p out) (hi : ¬ p i) (hids : ids.Nodup)
    (hmem : ∀ j, j ∈ ids ↔ j = i ∨ j ∈ cs.map entryId ∧ p j) : ids.length - 1 = out.length := by
  have hperm : ids.Perm (i :: out.map entryId) := by
    refine (List.perm_ext_iff_of_nodup hids (List.nodup_cons.mpr ⟨?_, h.nodup⟩)).mpr ?_
    · intro hmem
      obtain ⟨c, hc, rfl⟩ := List.mem_map.mp hmem
      exact hi ((h.mem_iff c).mp hc).2
    · intro j
      rw [hmem, List.mem_cons, List.mem_map, List.mem_map]
      refine or_congr_right ⟨?_, ?_⟩
      · rintro ⟨⟨c, hc, rfl⟩, hp⟩
        exact ⟨c, (h.mem_iff c).mpr ⟨hc, hp⟩, rfl⟩
      · rintro ⟨c, hc, rfl⟩
        obtain ⟨hcs, hp⟩ := (h.mem_iff c).mp hc
        exact ⟨⟨c, hcs, rfl⟩, hp⟩
  rw [hperm.length_eq, List.length_cons, List.length_map, Nat.add_sub_cancel]

/-! ## One group -/

/-- A chain holds its comments once. -/
theorem listsOnce_chain (hd : (cs.map entryId).Nodup) {head : C} (hhead : head ∈ cs) :
    ListsOnce cs (· ∈ (chain cs head).map entryId) (chain cs head) := by
  refine ⟨nodup_chain head, fun c => ⟨?_, ?_⟩⟩
  · intro hc
    exact ⟨mem_of_mem_chain hhead hc, List.mem_map_of_mem hc⟩
  · rintro ⟨hc, hid⟩
    obtain ⟨d, hdm, hid⟩ := List.mem_map.mp hid
    rwa [← eq_of_entryId_eq hd (mem_of_mem_chain hhead hdm) hc hid]

/-- The chain of a group and what lies below its last comment are what lies below its head, each comment once. -/
theorem listsOnce_group (hd : (cs.map entryId).Nodup) {head : C} (hhead : head ∈ cs)
    (hself : ¬ Under cs (entryId (chainEnd cs head)) (entryId (chainEnd cs head))) {inner : List C}
    (h : ListsOnce cs (Under cs · (entryId (chainEnd cs head))) inner) :
    ListsOnce cs (Within cs · (entryId head)) (chain cs head ++ inner) := by
  refine ((listsOnce_chain hd hhead).append h ?_).congr ?_
  · intro i hi hunder
    obtain ⟨c, hc, rfl⟩ := List.mem_map.mp hi
    exact hself (Relation.TransGen.trans_right (chainEnd_within hc) hunder)
  · intro i
    exact within_head_iff.symm

/-! ## All groups -/

open Classical in
/-- The number of comments below an id. -/
noncomputable def weight (cs : List C) (i : String) : Nat := (cs.filter fun c => Under cs (entryId c) i).length

/-- Below a comment there are fewer comments than below an id that it lies below, unless it is its own ancestor. -/
theorem weight_lt {c : C} (hc : c ∈ cs) {i : String} (hi : Under cs (entryId c) i)
    (hself : ¬ Under cs (entryId c) (entryId c)) : weight cs (entryId c) < weight cs i := by
  classical
  have hsub : (cs.filter fun d => Under cs (entryId d) (entryId c)) =
      (cs.filter fun d => Under cs (entryId d) i).filter fun d => Under cs (entryId d) (entryId c) := by
    rw [List.filter_filter]
    refine List.filter_congr fun d _ => ?_
    rw [← Bool.decide_and, decide_eq_decide]
    exact ⟨fun h => ⟨h, h.trans hi⟩, And.left⟩
  rw [weight, weight, hsub, List.length_filter_lt_length_iff_exists]
  exact ⟨c, List.mem_filter.mpr ⟨hc, decide_eq_true hi⟩, by simpa using hself⟩

/-- The last comment of a chain lies below whatever its head replies to, and is not its own ancestor if that is not. -/
theorem chainEnd_under (hd : (cs.map entryId).Nodup) {head : C} (hhead : head ∈ cs)
    (hself : ¬ Under cs (parentId head) (parentId head)) :
    Under cs (entryId (chainEnd cs head)) (parentId head) ∧
      ¬ Under cs (entryId (chainEnd cs head)) (entryId (chainEnd cs head)) := by
  have hunder : Under cs (entryId (chainEnd cs head)) (parentId head) :=
    under_iff_head.mpr ⟨head, hhead, rfl, chainEnd_within List.mem_cons_self⟩
  exact ⟨hunder, not_under_self hd hself hunder⟩

/-- Drilling down some of the groups below an id ends if it does below the last comment of each of them. -/
theorem exists_emits (hd : (cs.map entryId).Nodup) {i : String} (hself : ¬ Under cs i i) {heads : List C}
    (hheads : ∀ h ∈ heads, h ∈ cs ∧ parentId h = i) (hnodup : heads.Nodup)
    (hinner : ∀ h ∈ heads, ∃ inner, Drills cs (some (entryId (chainEnd cs h))) inner ∧
      ListsOnce cs (Under cs · (entryId (chainEnd cs h))) inner) :
    ∃ out, Emits cs (heads.map (groupAt cs)) out ∧
      ListsOnce cs (fun j => ∃ h ∈ heads, Within cs j (entryId h)) out := by
  induction heads with
  | nil => exact ⟨[], .nil, List.nodup_nil, fun c => by simp⟩
  | cons head heads ih =>
    obtain ⟨hhead, hrest⟩ := List.forall_mem_cons.mp hheads
    obtain ⟨hfresh, hnodup⟩ := List.nodup_cons.mp hnodup
    obtain ⟨⟨inner, ⟨below, hbelow, hemits⟩, honce⟩, hinner⟩ := List.forall_mem_cons.mp hinner
    obtain ⟨outer, houter, houtonce⟩ := ih hrest hnodup hinner
    have hend := (chainEnd_under hd hhead.1 (hhead.2.symm ▸ hself)).2
    refine ⟨chain cs head ++ inner ++ outer, .cons (getLast?_chain head) hbelow hemits houter, ?_⟩
    refine ((listsOnce_group hd hhead.1 hend honce).append houtonce ?_).congr fun j => ?_
    · rintro j hj ⟨h, hh, hjh⟩
      have heq : head = h := eq_of_within_both hd hhead.1 (hrest h hh).1 hself hhead.2 (hrest h hh).2 hj hjh
      exact hfresh (heq ▸ hh)
    · simp only [List.mem_cons, exists_eq_or_imp]

/-- Below an id that is not its own ancestor drilling down ends, and shows every comment there once. -/
theorem exists_drills (hd : (cs.map entryId).Nodup) (anchor : Option String)
    (hself : ¬ Under cs (anchor.getD "") (anchor.getD "")) :
    ∃ out, Drills cs anchor out ∧ ListsOnce cs (Under cs · (anchor.getD "")) out := by
  -- drilling down goes on below the last comments of the chains, with fewer comments below them
  induction hn : weight cs (anchor.getD "") using Nat.strongRecOn generalizing anchor with
  | ind n ih =>
    have hheads : ∀ h ∈ cs.filter (parentId · = anchor.getD ""), h ∈ cs ∧ parentId h = anchor.getD "" := by
      intro h hh
      obtain ⟨hcs, hparent⟩ := List.mem_filter.mp hh
      exact ⟨hcs, of_decide_eq_true hparent⟩
    have hinner : ∀ h ∈ cs.filter (parentId · = anchor.getD ""),
        ∃ inner, Drills cs (some (entryId (chainEnd cs h))) inner ∧
          ListsOnce cs (Under cs · (entryId (chainEnd cs h))) inner := by
      intro h hh
      obtain ⟨hcs, hparent⟩ := hheads h hh
      obtain ⟨hunder, hend⟩ := chainEnd_under hd hcs (hparent.symm ▸ hself)
      rw [hparent] at hunder
      have hlt := weight_lt (chainEnd_mem hcs) hunder hend
      exact ih _ (hn ▸ hlt) (some _) hend rfl
    obtain ⟨out, hemits, honce⟩ := exists_emits hd hself hheads (hd.of_map.filter _) hinner
    refine ⟨out, ⟨_, groups_eq anchor, hemits⟩, honce.congr fun j => ?_⟩
    rw [under_iff_head]
    simp only [List.mem_filter, decide_eq_true_eq, and_assoc]

/-- A group that comes up below an id that is not its own ancestor is that of a comment of which this is true too. -/
theorem Met.exists_head (hd : (cs.map entryId).Nodup) {anchor : Option String} {g : Group C} (h : Met cs anchor g)
    (hself : ¬ Under cs (anchor.getD "") (anchor.getD "")) :
    ∃ head ∈ cs, g = groupAt cs head ∧ ¬ Under cs (parentId head) (parentId head) := by
  induction h with
  | here hgs hg =>
    obtain ⟨head, hcs, hgroup, hparent⟩ := exists_head_of_mem_groups hgs hg
    exact ⟨head, hcs, hgroup.symm, hparent.symm ▸ hself⟩
  | deeper hgs hg hlast _ ih =>
    obtain ⟨head, hcs, rfl, hparent⟩ := exists_head_of_mem_groups hgs hg
    obtain rfl := Option.some.inj ((getLast?_chain head).symm.trans hlast)
    exact ih (chainEnd_under hd hcs (hparent.symm ▸ hself)).2

/-- The number of ids found below a comment is that of the comments there. -/
theorem length_reached (hne : ∀ c ∈ cs, entryId c ≠ "") {c : C} (hc : c ∈ cs)
    (hself : ¬ Under cs (entryId c) (entryId c)) {out : List C} (h : ListsOnce cs (Under cs · (entryId c)) out) :
    (reached cs (entryId c)).length - 1 = out.length := by
  refine h.length_eq hself (nodup_reached _) fun j => ?_
  rw [mem_reached_iff_within hne (hne c hc), within_iff]
  exact or_congr_right ⟨fun hj => ⟨hj.mem_ids, hj⟩, And.right⟩

/-- What drilling down from an anchor is to show. -/
structure ShowsEachOnce (cs : List C) (anchor : Option String) : Prop where
  /-- It ends, and shows the comments below the anchor, each once. -/
  emitted : ∃ out, (∀ out', Drills cs anchor out' ↔ out' = out) ∧ (out.map entryId).Nodup ∧
    ∀ c, c ∈ out ↔ c ∈ cs ∧ Under cs (entryId c) (anchor.getD "")
  /-- Every group on the way counts the comments shown below its last one. -/
  counted : ∀ g, Met cs anchor g → ∃ last out, g.comments.getLast? = some last ∧
    Drills cs (some (entryId last)) out ∧ g.moreComments = out.length

/-- **Drilling down shows every comment below the anchor exactly once**, if the anchor is not its own ancestor. The top
level never is. -/
theorem drill_shows_each_once (hd : (cs.map entryId).Nodup) (hne : ∀ c ∈ cs, entryId c ≠ "") {anchor : Option String}
    (hself : ∀ a ∈ anchor, ¬ Under cs a a) : ShowsEachOnce cs anchor := by
  have hself : ¬ Under cs (anchor.getD "") (anchor.getD "") := not_under_anchor hne hself
  constructor
  · obtain ⟨out, hdrills, honce⟩ := exists_drills hd anchor hself
    exact ⟨out, fun out' => ⟨hdrills.unique, fun h => h ▸ hdrills⟩, honce.nodup, honce.mem_iff⟩
  · intro g hmet
    obtain ⟨head, hhead, rfl, hparent⟩ := hmet.exists_head hd hself
    have hend := (chainEnd_under hd hhead hparent).2
    obtain ⟨out, hdrills, honce⟩ := exists_drills hd (some (entryId (chainEnd cs head))) hend
    exact ⟨_, out, getLast?_chain head, hdrills, length_reached hne (chainEnd_mem hhead) hend honce⟩

/-- A list with a branch below `b`, a circle of `x` and `y` with `z` below it, and a reply to a comment not here. -/
def tangledComments : List Comment :=
  [{ id := "d", repliedComment := "b" }, { id := "x", repliedComment := "y" }, { id := "a" },
    { id := "b", repliedComment := "a" }, { id := "y", repliedComment := "x" }, { id := "z", repliedComment := "x" },
    { id := "c", repliedComment := "b" }, { id := "e", repliedComment := "d" }, { id := "o", repliedComment := "gone" }]

theorem drill_shows_each_once_tangled :
    (tangledComments.map entryId).Nodup ∧ (∀ c ∈ tangledComments, entryId c ≠ "") ∧
      (∀ a ∈ some "b", ¬ Under tangledComments a a) ∧ ShowsEachOnce tangledComments (some "b") := by
  have hd : (tangledComments.map entryId).Nodup := by decide
  have hne : ∀ c ∈ tangledComments, entryId c ≠ "" := by decide
  have hself : ∀ a ∈ some "b", ¬ Under tangledComments a a := by
    rintro _ ⟨⟩ hunder
    -- the way up from `b` passes `a` and ends at the top level
    have hb : RepliesTo tangledComments "b" "a" :=
      ⟨{ id := "b", repliedComment := "a" }, by simp [tangledComments], rfl, rfl⟩
    have ha : RepliesTo tangledComments "a" "" := ⟨{ id := "a" }, by simp [tangledComments], rfl, rfl⟩
    rcases within_iff.mp (hunder.within_of_repliesTo hd hb) with hab | hab
    · exact absurd hab (by decide)
    · rcases within_iff.mp (hab.within_of_repliesTo hd ha) with htop | htop
      · exact absurd htop (by decide)
      · exact absurd htop.mem_ids (by decide)
  exact ⟨hd, hne, hself, drill_shows_each_once hd hne hself⟩

end Thread

end Hyperlink
