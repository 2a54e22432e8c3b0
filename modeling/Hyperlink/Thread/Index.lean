import Hyperlink.Dictionary
import Hyperlink.Thread

/-!
# Hyperlink.Thread.Index — threads found by the positions of their comments

Two tables are made of a list of comments once: where the first comment with each id stands, and where the comments
stand that reply to each id. The walks go from position to position, and every position is promised to lie in the list.

* `Index.ofComments`: the tables of a list.
* `Index.chainFrom`, `Index.countBelow`: the positions of a chain, and the number of ids below one. Both searches meet
  an id at most once, so that the ids left (`unseen`) bound them.
* `Index.groups`, `Index.ancestry`: the groups and the thread. What they give is `Thread.groups` and `Thread.ancestry`.
-/

namespace Hyperlink

theorem Fault.mem_of_entryAt {α : Type} {xs : List α} {i : Nat} {x : α} (h : Fault.entryAt xs i = .ok x) : x ∈ xs :=
  List.mem_of_getElem? (Fault.entryAt_eq_ok_iff.mp h)

namespace Thread

open ThreadEntry

variable {C : Type} [ThreadEntry C]

/-- Where the comments of a list stand. -/
structure Index where
  /-- The position of the first comment with each id. -/
  firsts : List (String × Nat) := []
  /-- The positions of the comments that reply to each id, in the order of the list. -/
  children : List (String × List Nat) := []

namespace Index

/-! ## Tables -/

/-- The positions of the comments that reply to the id. -/
def repliesTo (x : Index) (i : String) : List Nat := (x.children.lookup i).getD []

/-- Adds a comment that stands at the position. An id keeps its first position, and none replies to the empty id. -/
def add (x : Index) (c : C) (pos : Nat) : Index where
  firsts := if (x.firsts.lookup (entryId c)).isSome then x.firsts else Dictionary.insert (entryId c) pos x.firsts
  children :=
    if parentId c = "" then x.children
    else Dictionary.insert (parentId c) (x.repliesTo (parentId c) ++ [pos]) x.children

/-- The tables of a list. -/
def ofComments (cs : List C) : Index := cs.zipIdx.foldl (fun x p => x.add p.1 p.2) {}

/-- The first comment with the id. -/
def get (x : Index) (cs : List C) (i : String) : Except Fault (Option C) :=
  match x.firsts.lookup i with
  | some pos => (Fault.entryAt cs pos).map some
  | none => .ok none

/-! ## Downwards -/

/-- Lets a chain of positions grow: as long as there is exactly one reply to its last comment, with an id that is not
among `seen`. -/
def grow (x : Index) (cs : List C) (seen : List String) (chain : List Nat) : Except Fault (List Nat) := do
  let last ← Fault.lastOf chain
  let tail ← Fault.entryAt cs last
  match x.repliesTo (entryId tail) with
  | [next] =>
    match _ : Fault.entryAt cs next with
    | .error f => .error f
    | .ok reply =>
      if _ : entryId reply ∈ seen then return chain
      else x.grow cs (entryId reply :: seen) (chain ++ [next])
  | _ => return chain
termination_by (unseen cs seen).length
decreasing_by exact unseen_cons_lt ⟨‹_›, List.mem_map_of_mem (Fault.mem_of_entryAt ‹_›)⟩

/-- The positions of the chain of single replies that starts at the position. -/
def chainFrom (x : Index) (cs : List C) (pos : Nat) : Except Fault (List Nat) := do
  let head ← Fault.entryAt cs pos
  x.grow cs [entryId head] [pos]

/-- A search: the ids that it has reached, and those of them from which it has to go on. -/
structure Search where
  reached : List String
  queue : List String

namespace Search

/-- Meets an id. One that is new is reached, and the search has to go on from it. -/
def meet (s : Search) (i : String) : Search := if i ∈ s.reached then s else ⟨i :: s.reached, s.queue ++ [i]⟩

/-- Meets the id of the comment at the position. -/
def visit (cs : List C) (s : Search) (pos : Nat) : Except Fault Search := do
  let c ← Fault.entryAt cs pos
  return s.meet (entryId c)

/-- How far the search can still go. -/
def left (cs : List C) (s : Search) : Nat := (unseen cs s.reached).length + s.queue.length

/-- An id of the list that is reached is one less to meet and one more to go on from. -/
theorem left_meet_le {cs : List C} {s : Search} {i : String} (h : i ∈ cs.map entryId) :
    (s.meet i).left cs ≤ s.left cs := by
  unfold meet
  split
  · exact Nat.le_refl _
  · next hnew =>
    have hlt := unseen_cons_lt ⟨hnew, h⟩
    simp only [left, List.length_append, List.length_singleton]
    omega

theorem left_visit_le {cs : List C} {s s' : Search} {pos : Nat} (h : s.visit cs pos = .ok s') :
    s'.left cs ≤ s.left cs := by
  unfold visit at h
  cases hc : Fault.entryAt cs pos with
  | error f => simp [hc, bind, Except.bind] at h
  | ok c =>
    obtain rfl : s.meet (entryId c) = s' := by simpa [hc, bind, Except.bind, pure, Except.pure] using h
    exact left_meet_le (List.mem_map_of_mem (Fault.mem_of_entryAt hc))

theorem left_foldlM_le {cs : List C} {ps : List Nat} {s s' : Search} (h : ps.foldlM (visit cs) s = .ok s') :
    s'.left cs ≤ s.left cs := by
  induction ps generalizing s with
  | nil =>
    obtain rfl := Except.ok.inj h
    exact Nat.le_refl _
  | cons pos ps ih =>
    rw [List.foldlM_cons] at h
    cases hs : visit cs s pos with
    | error f => simp [hs, bind, Except.bind] at h
    | ok t =>
      simp only [hs, bind, Except.bind] at h
      exact Nat.le_trans (ih h) (left_visit_le hs)

end Search

/-- Goes on with a search until no id is left to go on from, and gives the ids that were reached. -/
def spread (x : Index) (cs : List C) : Search → Except Fault (List String)
  | ⟨reached, []⟩ => .ok reached
  | ⟨reached, i :: queue⟩ =>
    match _ : (x.repliesTo i).foldlM (Search.visit cs) ⟨reached, queue⟩ with
    | .error f => .error f
    | .ok s => x.spread cs s
termination_by s => s.left cs
decreasing_by exact Nat.lt_of_le_of_lt (Search.left_foldlM_le ‹_›) (by simp [Search.left])

/-- The number of ids below the id. -/
def countBelow (x : Index) (cs : List C) (i : String) : Except Fault Nat := do
  let reached ← x.spread cs ⟨[i], [i]⟩
  Fault.precOf reached.length

/-- The group that starts at `head`, which stands at the position. -/
def group (x : Index) (cs : List C) (head : C) (pos : Nat) : Except Fault (Group C) := do
  let chain ← x.chainFrom cs pos
  let last ← Fault.entryAt cs (← Fault.lastOf chain)
  let more ← x.countBelow cs (entryId last)
  let comments ← chain.mapM (Fault.entryAt cs)
  return ⟨entryId head, comments, more⟩

/-- The groups below the anchor, in the order of the list. Without an anchor they are those of the top level. -/
def groups (cs : List C) (anchor : Option String) : Except Fault (List (Group C)) :=
  let x := ofComments cs
  (cs.zipIdx.filter (parentId ·.1 = anchor.getD "")).mapM fun p => x.group cs p.1 p.2

/-! ## Upwards -/

omit [ThreadEntry C] in
theorem mem_of_get {x : Index} {cs : List C} {i : String} {c : C} (h : x.get cs i = .ok (some c)) : c ∈ cs := by
  unfold get at h
  split at h
  · next pos _ =>
    cases hc : Fault.entryAt cs pos with
    | error f => simp [hc, Except.map] at h
    | ok d =>
      obtain rfl : d = c := by simpa [hc, Except.map] using h
      exact Fault.mem_of_entryAt hc
  · simp at h

/-- Puts the comments above `c` in front of a thread, as long as there is one with an id that was not visited, and in
front of them `none`. -/
def climb (x : Index) (cs : List C) (visited : List String) (c : C) (thread : List (Option C)) :
    Except Fault (List (Option C)) :=
  match _ : x.get cs (parentId c) with
  | .error f => .error f
  | .ok none => .ok (none :: thread)
  | .ok (some parent) =>
    if _ : entryId parent ∈ visited then .ok (none :: thread)
    else x.climb cs (entryId parent :: visited) parent (some parent :: thread)
termination_by (unseen cs visited).length
decreasing_by exact unseen_cons_lt ⟨‹_›, List.mem_map_of_mem (mem_of_get ‹_›)⟩

/-- The thread that leads to the target, the start first, with `none` in front of it. -/
def ancestry (cs : List C) (target : String) : Except Fault (List (Option C)) := do
  let x := ofComments cs
  match ← x.get cs target with
  | some c => x.climb cs [entryId c] c [some c]
  | none => return [none]

end Index

end Thread

end Hyperlink
