import Hyperlink.Comment
import Hyperlink.Proofs.Dictionary.Entries
import Hyperlink.Proofs.Thread.Ancestry
import Hyperlink.Proofs.Thread.Groups
import Hyperlink.Thread.Index
import Mathlib.Data.List.Forall2

/-!
# Hyperlink.Proofs.Thread.Index — every position lies in its list

* `Stands`: a comment stands at a position. `Fault.mapM_eq_ok`: comments that stand at positions are what is found
  there.
* `repliesTo_stands`, `get_eq`: the tables hold the positions of `replies` and of `find?`, by induction on the list from
  the back.
* `grow_eq`: a chain of positions grows as `chainAfter` does.
* `Search.Explores`: what a search keeps to. Meeting an id keeps it (`Explores.meet`), and so does going on from the
  first id of the queue (`Explores.step`); `spread_eq`: so the search ends with the ids that replies lead to.
* `groups_eq`, `ancestry_eq`: **no position is out of range**, and what is found by positions are `Thread.groups` and
  `Thread.ancestry`.
-/

namespace Hyperlink

namespace Fault

variable {α β : Type}

/-- What is found one by one is found all at once. -/
theorem mapM_eq_ok {f : α → Except Fault β} {xs : List α} {ys : List β}
    (h : List.Forall₂ (fun x y => f x = .ok y) xs ys) : xs.mapM f = .ok ys := by
  induction h with
  | nil => rfl
  | cons hx _ ih =>
    rw [List.mapM_cons, hx, ih]
    rfl

/-- The last entries of two lists belong together if all their entries do. -/
theorem lastOf_of_forall₂ {R : α → β → Prop} {xs : List α} {ys : List β} (h : List.Forall₂ R xs ys) {y : β}
    (hy : ys.getLast? = some y) : ∃ x, lastOf xs = .ok x ∧ R x y := by
  unfold lastOf
  induction h with
  | nil => simp at hy
  | @cons a b xs ys hab hrest ih =>
    cases hrest with
    | nil =>
      obtain rfl : b = y := by simpa using hy
      exact ⟨a, rfl, hab⟩
    | cons hnext hrest =>
      rw [List.getLast?_cons_cons] at hy ⊢
      exact ih hy

end Fault

namespace Thread

open ThreadEntry

variable {C : Type} {cs : List C}

/-- The comment stands at the position. -/
def Stands (cs : List C) (pos : Nat) (c : C) : Prop := Fault.entryAt cs pos = .ok c

theorem Stands.concat {pos : Nat} {c : C} (h : Stands cs pos c) (d : C) : Stands (cs ++ [d]) pos c := by
  have hpos := Fault.entryAt_eq_ok_iff.mp h
  have hlt : pos < cs.length := (List.getElem?_eq_some_iff.mp hpos).1
  exact Fault.entryAt_eq_ok_iff.mpr ((List.getElem?_append_left hlt).trans hpos)

theorem stands_length (cs : List C) (c : C) : Stands (cs ++ [c]) cs.length c :=
  Fault.entryAt_eq_ok_iff.mpr List.getElem?_concat_length

variable [ThreadEntry C]

namespace Index

/-! ## Tables -/

/-- A new id gets its position, and all others keep theirs. -/
theorem lookup_firsts_add (x : Index) (c : C) (pos : Nat) (i : String) :
    (x.add c pos).firsts.lookup i = (x.firsts.lookup i).or (if i = entryId c then some pos else none) := by
  have hkept : (x.firsts.lookup (entryId c)).isSome → (x.add c pos).firsts = x.firsts := fun h => if_pos h
  have hnew : ¬ (x.firsts.lookup (entryId c)).isSome →
      (x.add c pos).firsts = Dictionary.insert (entryId c) pos x.firsts := fun h => if_neg h
  by_cases hsome : (x.firsts.lookup (entryId c)).isSome
  · rw [hkept hsome]
    by_cases hi : i = entryId c
    · rw [hi, Option.or_of_isSome hsome]
    · rw [if_neg hi, Option.or_none]
  · rw [hnew hsome, Dictionary.lookup_insert]
    by_cases hi : i = entryId c
    · rw [if_pos hi, if_pos hi, hi, Option.not_isSome_iff_eq_none.mp hsome, Option.none_or]
    · rw [if_neg hi, if_neg hi, Option.or_none]

/-- The position is one more for the id replied to, unless that is empty. -/
theorem repliesTo_add (x : Index) (c : C) (pos : Nat) (i : String) :
    (x.add c pos).repliesTo i =
      if parentId c ≠ "" ∧ i = parentId c then x.repliesTo i ++ [pos] else x.repliesTo i := by
  unfold repliesTo
  by_cases hempty : parentId c = ""
  · have hkept : (x.add c pos).children = x.children := if_pos hempty
    rw [hkept, if_neg fun h => h.1 hempty]
  · have hnew : (x.add c pos).children =
        Dictionary.insert (parentId c) (x.repliesTo (parentId c) ++ [pos]) x.children := if_neg hempty
    rw [hnew, Dictionary.lookup_insert]
    by_cases hi : i = parentId c
    · rw [if_pos hi, if_pos ⟨hempty, hi⟩, hi]
      rfl
    · rw [if_neg hi, if_neg fun h => hi h.2]

theorem ofComments_concat (cs : List C) (c : C) : ofComments (cs ++ [c]) = (ofComments cs).add c cs.length := by
  simp [ofComments, List.zipIdx_append, List.foldl_append]

theorem replies_concat (cs : List C) (c : C) (i : String) :
    replies (cs ++ [c]) i = if parentId c ≠ "" ∧ i = parentId c then replies cs i ++ [c] else replies cs i := by
  unfold replies
  by_cases hi : i = parentId c
  · subst hi
    by_cases hempty : parentId c = "" <;> simp [hempty, List.filter_append]
  · simp [hi, Ne.symm hi, List.filter_append]

/-- The first position of an id is that of the first comment with it. -/
theorem lookup_firsts (cs : List C) (i : String) :
    (ofComments cs).firsts.lookup i = cs.findIdx? (entryId · = i) := by
  induction cs using List.reverseRecOn with
  | nil => rfl
  | append_singleton cs c ih =>
    rw [ofComments_concat, lookup_firsts_add, ih, List.findIdx?_append]
    congr 1
    by_cases h : i = entryId c
    · simp [h]
    · simp [h, Ne.symm h]

theorem get_eq (cs : List C) (i : String) : (ofComments cs).get cs i = .ok (find? cs i) := by
  unfold get find?
  rw [lookup_firsts, List.find?_eq_bind_findIdx?_getElem?]
  cases hpos : cs.findIdx? (entryId · = i) with
  | none => rfl
  | some pos =>
    obtain ⟨hlt, -⟩ := List.findIdx?_eq_some_iff_getElem.mp hpos
    have hfirst : Fault.entryAt cs pos = .ok cs[pos] := Fault.entryAt_eq_ok_iff.mpr (List.getElem?_eq_getElem hlt)
    rw [Option.bind_some, List.getElem?_eq_getElem hlt]
    simp only [hfirst]
    rfl

/-- Positions of one list need not lie in another. -/
example : (ofComments [({ id := "a" } : Comment), { id := "b" }]).get [({ id := "a" } : Comment)] "b" =
    .error .outOfRange := rfl

/-- **The positions kept for an id** are those of the replies to it. -/
theorem repliesTo_stands (cs : List C) (i : String) :
    List.Forall₂ (Stands cs) ((ofComments cs).repliesTo i) (replies cs i) := by
  induction cs using List.reverseRecOn with
  | nil => simp [ofComments, repliesTo, replies]
  | append_singleton cs c ih =>
    have hold := ih.imp fun _ _ h => Stands.concat h c
    rw [ofComments_concat, repliesTo_add, replies_concat]
    by_cases h : parentId c ≠ "" ∧ i = parentId c
    · rw [if_pos h, if_pos h]
      exact List.rel_append hold (.cons (stands_length cs c) .nil)
    · rw [if_neg h, if_neg h]
      exact hold

/-! ## Downwards -/

section Grow

variable {x : Index} {ps : List Nat} {pos : Nat} {tail : C} (htail : Stands cs pos tail) (seen : List String)

include htail

theorem grow_of_single {next : Nat} {reply : C} (hreply : x.repliesTo (entryId tail) = [next])
    (hnext : Stands cs next reply) :
    x.grow cs seen (ps ++ [pos]) =
      if entryId reply ∈ seen then .ok (ps ++ [pos])
      else x.grow cs (entryId reply :: seen) (ps ++ [pos] ++ [next]) := by
  have hlast : Fault.lastOf (ps ++ [pos]) = .ok pos := by simp [Fault.lastOf]
  rw [grow, hlast]
  have hpos : Fault.entryAt cs pos = .ok tail := htail
  have hreply' : Fault.entryAt cs next = .ok reply := hnext
  simp only [bind, Except.bind, hpos, hreply]
  split
  · next f hf => simp [hf] at hreply'
  · next c hc =>
    obtain rfl : c = reply := by simpa [hc] using hreply'
    rfl

theorem grow_of_not_single (h : ∀ next, x.repliesTo (entryId tail) ≠ [next]) :
    x.grow cs seen (ps ++ [pos]) = .ok (ps ++ [pos]) := by
  have hlast : Fault.lastOf (ps ++ [pos]) = .ok pos := by simp [Fault.lastOf]
  rw [grow, hlast]
  have hpos : Fault.entryAt cs pos = .ok tail := htail
  simp only [bind, Except.bind, hpos]
  rfl

end Grow

/-- A single reply stands at the single position that is kept. -/
theorem repliesTo_of_onlyReply {tail next : C} (h : OnlyReply cs tail next) :
    ∃ pos, (ofComments cs).repliesTo (entryId tail) = [pos] ∧ Stands cs pos next := by
  have hreplies := repliesTo_stands cs (entryId tail)
  rw [h] at hreplies
  obtain ⟨pos, _, hnext, hnil, hpos⟩ := List.forall₂_cons_right_iff.mp hreplies
  obtain rfl := List.forall₂_nil_right_iff.mp hnil
  exact ⟨pos, hpos, hnext⟩

theorem repliesTo_of_not_onlyReply {tail : C} (h : ∀ next, ¬ OnlyReply cs tail next) (pos : Nat) :
    (ofComments cs).repliesTo (entryId tail) ≠ [pos] := by
  intro hpos
  have hreplies := repliesTo_stands cs (entryId tail)
  rw [hpos] at hreplies
  obtain ⟨next, _, -, hnil, hnext⟩ := List.forall₂_cons_left_iff.mp hreplies
  obtain rfl := List.forall₂_nil_left_iff.mp hnil
  exact h next hnext

/-- The positions of a chain that is let grow are those of the comments behind its last one. -/
theorem grow_eq {ps : List Nat} {front : List C} (h : List.Forall₂ (Stands cs) ps front) {pos : Nat} {tail : C}
    (htail : Stands cs pos tail) (seen : List String) :
    ∃ chain, (ofComments cs).grow cs seen (ps ++ [pos]) = .ok chain ∧
      List.Forall₂ (Stands cs) chain (front ++ tail :: chainAfter cs seen tail) := by
  have hall := List.rel_append h (.cons htail .nil)
  induction seen, tail using chainAfter.induct cs generalizing ps front pos with
  | case1 seen tail next hreply hnew ih =>
    obtain ⟨pos', hpos', hnext⟩ := repliesTo_of_onlyReply hreply
    obtain ⟨chain, hgrow, hchain⟩ := ih hall hnext (List.rel_append hall (.cons hnext .nil))
    refine ⟨chain, ?_, ?_⟩
    · rw [grow_of_single htail seen hpos' hnext, if_neg hnew.1, hgrow]
    · rw [chainAfter_of_isNew hreply hnew, List.append_cons]
      exact hchain
  | case2 seen tail next hreply hnew =>
    obtain ⟨pos', hpos', hnext⟩ := repliesTo_of_onlyReply hreply
    -- the reply is one of the list, so its id has been met
    have hseen : entryId next ∈ seen :=
      not_not.mp fun hseen => hnew ⟨hseen, List.mem_map_of_mem (Fault.mem_of_entryAt hnext)⟩
    refine ⟨ps ++ [pos], ?_, ?_⟩
    · rw [grow_of_single htail seen hpos' hnext, if_pos hseen]
    · rw [chainAfter_of_not_isNew hreply hnew]
      exact hall
  | case3 seen tail hreply =>
    refine ⟨ps ++ [pos], grow_of_not_single htail seen (repliesTo_of_not_onlyReply hreply), ?_⟩
    rw [chainAfter_of_not_onlyReply hreply]
    exact hall

theorem chainFrom_eq {pos : Nat} {head : C} (h : Stands cs pos head) :
    ∃ chain, (ofComments cs).chainFrom cs pos = .ok chain ∧ List.Forall₂ (Stands cs) chain (Thread.chain cs head) := by
  have hpos : Fault.entryAt cs pos = .ok head := h
  unfold chainFrom
  rw [hpos]
  exact grow_eq .nil h [entryId head]

/-! ## Searching downwards -/

namespace Search

/-- The search meets the ids of the comments that stand at the positions. -/
theorem foldlM_visit {ps : List Nat} {l : List C} (h : List.Forall₂ (Stands cs) ps l) (s : Search) :
    ps.foldlM (visit cs) s = .ok ((l.map entryId).foldl meet s) := by
  induction h generalizing s with
  | nil => rfl
  | @cons pos c ps l hc _ ih =>
    have hvisit : s.visit cs pos = .ok (s.meet (entryId c)) := by
      rw [visit, show Fault.entryAt cs pos = .ok c from hc]
      rfl
    rw [List.foldlM_cons, hvisit]
    exact ih (s.meet (entryId c))

/-- A search that started at `i`: it has reached ids that replies lead to, and the replies to them, unless it still has
to go on from them or is about to. -/
structure Explores (cs : List C) (i : String) (pending : List String) (s : Search) : Prop where
  nodup : s.reached.Nodup
  start : i ∈ s.reached
  sound : ∀ j ∈ s.reached, Relation.ReflTransGen (Answered cs) i j
  queued : ∀ j ∈ s.queue, j ∈ s.reached
  closed : ∀ j ∈ s.reached, j ∈ pending ∨ j ∈ s.queue ∨ ∀ k, Answered cs j k → k ∈ s.reached

variable {i j : String} {pending : List String} {s : Search}

theorem mem_reached_meet {k : String} : k ∈ (s.meet j).reached ↔ k = j ∨ k ∈ s.reached := by
  unfold meet
  split
  · next h => exact ⟨Or.inr, fun hk => hk.elim (fun heq => heq ▸ h) id⟩
  · exact List.mem_cons

/-- Whatever is met stays met. -/
theorem mem_reached_foldl {js : List String} {k : String} :
    k ∈ (js.foldl meet s).reached ↔ k ∈ js ∨ k ∈ s.reached := by
  induction js generalizing s with
  | nil => simp
  | cons j js ih =>
    rw [List.foldl_cons, ih, mem_reached_meet, List.mem_cons]
    tauto

/-- Meeting an id that replies lead to goes on exploring: a new one is one to go on from. -/
theorem Explores.meet (h : Explores cs i pending s) (hj : Relation.ReflTransGen (Answered cs) i j) :
    Explores cs i pending (s.meet j) := by
  unfold Search.meet
  split
  · exact h
  · next hnew =>
    refine ⟨List.nodup_cons.mpr ⟨hnew, h.nodup⟩, List.mem_cons_of_mem _ h.start, ?_, ?_, ?_⟩
    · exact List.forall_mem_cons.mpr ⟨hj, h.sound⟩
    · intro k hk
      rcases List.mem_append.mp hk with hk | hk
      · exact List.mem_cons_of_mem _ (h.queued k hk)
      · exact List.mem_singleton.mp hk ▸ List.mem_cons_self
    · intro k hk
      rcases List.mem_cons.mp hk with rfl | hk
      · exact Or.inr (Or.inl (by simp))
      · rcases h.closed k hk with hpending | hqueue | hanswers
        · exact Or.inl hpending
        · exact Or.inr (Or.inl (List.mem_append_left _ hqueue))
        · exact Or.inr (Or.inr fun l hl => List.mem_cons_of_mem _ (hanswers l hl))

theorem Explores.foldl {js : List String} (h : Explores cs i pending s)
    (hjs : ∀ j ∈ js, Relation.ReflTransGen (Answered cs) i j) : Explores cs i pending (js.foldl Search.meet s) := by
  induction js generalizing s with
  | nil => exact h
  | cons j js ih =>
    obtain ⟨hj, hjs⟩ := List.forall_mem_cons.mp hjs
    exact ih (h.meet hj) hjs

/-- The first id of the queue is taken out of it, and the replies to it are still to be met. -/
theorem Explores.pop {reached queue : List String} (h : Explores cs i [] ⟨reached, j :: queue⟩) :
    Explores cs i [j] ⟨reached, queue⟩ where
  nodup := h.nodup
  start := h.start
  sound := h.sound
  queued k hk := h.queued k (List.mem_cons_of_mem j hk)
  closed k hk := by
    rcases h.closed k hk with hnil | hqueue | hanswers
    · cases hnil
    · rcases List.mem_cons.mp hqueue with rfl | hqueue
      · exact Or.inl List.mem_cons_self
      · exact Or.inr (Or.inl hqueue)
    · exact Or.inr (Or.inr hanswers)

/-- An id whose replies have all been met is done with. -/
theorem Explores.settle (h : Explores cs i [j] s) (hj : ∀ k, Answered cs j k → k ∈ s.reached) :
    Explores cs i [] s where
  nodup := h.nodup
  start := h.start
  sound := h.sound
  queued := h.queued
  closed k hk := by
    rcases h.closed k hk with hpending | hrest
    · obtain rfl := List.mem_singleton.mp hpending
      exact Or.inr (Or.inr hj)
    · exact Or.inr hrest

/-- Going on from the first id of the queue: all replies to it are met. -/
theorem Explores.step {reached queue : List String} (h : Explores cs i [] ⟨reached, j :: queue⟩) :
    Explores cs i [] (((replies cs j).map entryId).foldl Search.meet ⟨reached, queue⟩) := by
  have hj : Relation.ReflTransGen (Answered cs) i j := h.sound j (h.queued j List.mem_cons_self)
  have hmet : Explores cs i [j] (((replies cs j).map entryId).foldl Search.meet ⟨reached, queue⟩) :=
    h.pop.foldl fun k hk => hj.tail hk
  exact hmet.settle fun k hk => mem_reached_foldl.mpr (Or.inl hk)

/-- A search with an empty queue has reached all ids that replies lead to. -/
theorem Explores.mem_iff {reached : List String} (h : Explores cs i [] ⟨reached, []⟩) {j : String} :
    j ∈ reached ↔ Relation.ReflTransGen (Answered cs) i j := by
  refine ⟨h.sound j, fun hj => ?_⟩
  induction hj with
  | refl => exact h.start
  | tail _ hstep ih =>
    rcases h.closed _ ih with hnil | hnil | hanswers
    · cases hnil
    · cases hnil
    · exact hanswers _ hstep

end Search

/-- The search ends with the ids that replies lead to from its start, each once. -/
theorem spread_eq {i : String} {s : Search} (h : s.Explores cs i []) :
    ∃ out, (ofComments cs).spread cs s = .ok out ∧ out.Nodup ∧
      ∀ j, j ∈ out ↔ Relation.ReflTransGen (Answered cs) i j := by
  have hvisit : ∀ j s, ((ofComments cs).repliesTo j).foldlM (Search.visit cs) s =
      .ok (((replies cs j).map entryId).foldl Search.meet s) :=
    fun j => Search.foldlM_visit (repliesTo_stands cs j)
  induction s using spread.induct (ofComments cs) cs with
  | case1 reached => exact ⟨reached, by rw [spread], h.nodup, fun j => h.mem_iff⟩
  | case2 reached j queue f hf =>
    rw [hvisit] at hf
    cases hf
  | case3 reached j queue t ht ih =>
    obtain rfl : ((replies cs j).map entryId).foldl Search.meet ⟨reached, queue⟩ = t := by
      simpa [hvisit] using ht
    obtain ⟨out, hout, hnodup, hmem⟩ := ih h.step
    refine ⟨out, ?_, hnodup, hmem⟩
    rw [spread]
    split
    · next f hf =>
      rw [hvisit] at hf
      cases hf
    · next t ht =>
      rw [hvisit] at ht
      cases ht
      exact hout

/-- The number of ids below an id. -/
theorem countBelow_eq (i : String) : (ofComments cs).countBelow cs i = Thread.countBelow cs i := by
  have hstart : Search.Explores cs i [] ⟨[i], [i]⟩ :=
    ⟨List.nodup_singleton i, List.mem_singleton_self i, fun j hj => List.mem_singleton.mp hj ▸ .refl, fun _ => id,
      fun j hj => Or.inr (Or.inl hj)⟩
  obtain ⟨out, hout, hnodup, hmem⟩ := spread_eq hstart
  have hperm : out.Perm (reached cs i) :=
    (List.perm_ext_iff_of_nodup hnodup (nodup_reached i)).mpr fun j => (hmem j).trans mem_reached.symm
  unfold countBelow Thread.countBelow
  rw [hout, ← hperm.length_eq]
  rfl

/-! ## Groups -/

theorem group_eq {pos : Nat} {head : C} (h : Stands cs pos head) :
    (ofComments cs).group cs head pos = .ok (groupAt cs head) := by
  obtain ⟨chain, hchain, hstands⟩ := chainFrom_eq h
  obtain ⟨last, hlast, hend⟩ := Fault.lastOf_of_forall₂ hstands (getLast?_chain head)
  have hend : Fault.entryAt cs last = .ok (chainEnd cs head) := hend
  have hcomments : chain.mapM (Fault.entryAt cs) = .ok (Thread.chain cs head) := Fault.mapM_eq_ok hstands
  simp only [group, hchain, hlast, hend, countBelow_eq, Thread.countBelow_eq, hcomments, bind, Except.bind]
  rfl

/-- **The groups found by positions** are those of the list. -/
theorem groups_eq (cs : List C) (anchor : Option String) : groups cs anchor = Thread.groups cs anchor := by
  have hheads : cs.filter (parentId · = anchor.getD "") =
      (cs.zipIdx.filter (parentId ·.1 = anchor.getD "")).map Prod.fst := by
    conv_lhs => rw [← List.zipIdx_map_fst 0 cs, List.filter_map]
    rfl
  rw [Thread.groups_eq, hheads, List.map_map]
  refine Fault.mapM_eq_ok ?_
  rw [List.forall₂_map_right_iff, List.forall₂_same]
  intro p hp
  have hstands : Stands cs p.2 p.1 :=
    Fault.entryAt_eq_ok_iff.mpr (List.mem_zipIdx_iff_getElem?.mp (List.mem_of_mem_filter hp))
  exact group_eq hstands

/-! ## Upwards -/

/-- One step upwards. -/
theorem climb_step (visited : List String) (c : C) (thread : List (Option C)) :
    (ofComments cs).climb cs visited c thread =
      match find? cs (parentId c) with
      | none => .ok (none :: thread)
      | some parent =>
        if entryId parent ∈ visited then .ok (none :: thread)
        else (ofComments cs).climb cs (entryId parent :: visited) parent (some parent :: thread) := by
  have hget := get_eq cs (parentId c)
  rw [climb]
  split
  · next f hf => simp [hf] at hget
  · next hnone =>
    obtain hfind : none = find? cs (parentId c) := Except.ok.inj (hnone.symm.trans hget)
    rw [← hfind]
  · next parent hparent =>
    obtain hfind : some parent = find? cs (parentId c) := Except.ok.inj (hparent.symm.trans hget)
    rw [← hfind]
    rfl

/-- The comments above one are put in front of a thread, and `none` in front of them. -/
theorem climb_eq (visited : List String) (c : C) (thread : List (Option C)) :
    (ofComments cs).climb cs visited c thread =
      .ok (none :: ((above cs visited c).reverse.map some ++ thread)) := by
  induction visited, c using above.induct cs generalizing thread with
  | case1 visited c parent hparent hnew ih =>
    rw [climb_step, hparent, above_of_isNew hparent hnew]
    simp only [if_neg hnew.1, ih]
    simp
  | case2 visited c parent hparent hnew =>
    have hvisited : entryId parent ∈ visited :=
      not_not.mp fun hvisited => hnew ⟨hvisited, List.mem_map_of_mem (List.mem_of_find?_eq_some hparent)⟩
    rw [climb_step, hparent, above_of_not_isNew hparent hnew]
    simp only [if_pos hvisited]
    rfl
  | case3 visited c hparent =>
    rw [climb_step, hparent, above_of_find?_eq_none hparent]
    rfl

/-- **The thread found by positions** is that of the list. -/
theorem ancestry_eq (cs : List C) (target : String) : ancestry cs target = .ok (Thread.ancestry cs target) := by
  unfold Thread.ancestry
  simp only [ancestry, get_eq, bind, Except.bind]
  cases find? cs target with
  | none => rfl
  | some c =>
    simp only [climb_eq]
    simp

end Index

end Thread

end Hyperlink
