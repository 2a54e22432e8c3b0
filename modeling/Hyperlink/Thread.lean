import Hyperlink.Fault

/-!
# Hyperlink.Thread — reply threads of a flat comment list

A comment knows only the id of the comment it replies to. Ids may occur more than once, may be empty, and replies may
run in a circle; a comment whose reply id is empty stands at the top level, and nothing counts as a reply to the empty
id.

* `Thread.groups`: the conversations below a comment or at the top level. Each reply to the anchor starts a group,
  which grows along single replies; what hangs below its last comment is counted.
* `Thread.ancestry`: the walk from a comment up to the start of its thread.

The definitions here say what groups and threads are, comment by comment; `Hyperlink.Thread.Index` finds them by
positions in the list. Both walks keep the ids they have met. `unseen` lists the ids that are left, and shrinks with
every step.
-/

namespace Hyperlink

/-- What a thread needs to know of a comment. -/
class ThreadEntry (C : Type) where
  entryId : C → String
  /-- The id of the comment that this one replies to; empty at the top level. -/
  parentId : C → String

/-- A straight run of replies and the number of ids below its last comment. -/
structure Group (C : Type) where
  id : String
  comments : List C
  moreComments : Nat
  deriving DecidableEq, Repr

namespace Thread

open ThreadEntry

variable {C : Type} [ThreadEntry C]

/-! ## Steps -/

/-- The first comment with the id. -/
def find? (cs : List C) (i : String) : Option C := cs.find? (entryId · = i)

/-- The comments that reply to the id, in the order of the list. None replies to the empty id. -/
def replies (cs : List C) (i : String) : List C :=
  if i = "" then [] else cs.filter (parentId · = i)

/-- The ids of the list that are not among `seen`. -/
def unseen (cs : List C) (seen : List String) : List String :=
  (cs.map entryId).filter (· ∉ seen)

/-- Whether the id is one of the list and not among `seen`. -/
def IsNew (cs : List C) (seen : List String) (i : String) : Prop := i ∉ seen ∧ i ∈ cs.map entryId

instance (cs : List C) (seen : List String) (i : String) : Decidable (IsNew cs seen i) :=
  inferInstanceAs (Decidable (_ ∧ _))

theorem mem_unseen {cs : List C} {seen : List String} {i : String} : i ∈ unseen cs seen ↔ IsNew cs seen i := by
  simp [unseen, IsNew, and_comm]

/-- Meeting a new id leaves fewer ids. -/
theorem unseen_cons_lt {cs : List C} {seen : List String} {i : String} (h : IsNew cs seen i) :
    (unseen cs (i :: seen)).length < (unseen cs seen).length := by
  have hsub : unseen cs (i :: seen) = (unseen cs seen).filter (· ≠ i) := by
    simp only [unseen, List.filter_filter, List.mem_cons, not_or]
    congr 1
    funext j
    simp
  rw [hsub, List.length_filter_lt_length_iff_exists]
  exact ⟨i, mem_unseen.2 h, by simp⟩

/-! ## Downwards -/

/-- The comments behind `tail` in a chain: as long as there is exactly one reply, and its id is new. -/
def chainAfter (cs : List C) (seen : List String) (tail : C) : List C :=
  match replies cs (entryId tail) with
  | [next] =>
    if IsNew cs seen (entryId next) then next :: chainAfter cs (entryId next :: seen) next else []
  | _ => []
termination_by (unseen cs seen).length
decreasing_by exact unseen_cons_lt ‹_›

/-- The chain of single replies that starts at `head`. -/
def chain (cs : List C) (head : C) : List C := head :: chainAfter cs [entryId head] head

/-- The ids that are reached, given those reached so far and those still to visit. -/
def reachFrom (cs : List C) (reached : List String) : List String → List String
  | [] => reached
  | i :: todo =>
    if IsNew cs reached i then reachFrom cs (i :: reached) (todo ++ (replies cs i).map entryId)
    else reachFrom cs reached todo
termination_by todo => ((unseen cs reached).length, todo.length)
decreasing_by
  · exact Prod.Lex.left _ _ (unseen_cons_lt ‹_›)
  · exact Prod.Lex.right _ (by simp)

/-- The id itself and all ids below it. -/
def reached (cs : List C) (i : String) : List String := reachFrom cs [i] ((replies cs i).map entryId)

/-- The number of ids below the id. -/
def countBelow (cs : List C) (i : String) : Except Fault Nat := Fault.precOf (reached cs i).length

/-- The group that starts at `head`. -/
def group (cs : List C) (head : C) : Except Fault (Group C) := do
  let comments := chain cs head
  let last ← Fault.lastOf comments
  let more ← countBelow cs (entryId last)
  return ⟨entryId head, comments, more⟩

/-- The groups below the anchor, in the order of the list. Without an anchor they are those of the top level. -/
def groups (cs : List C) (anchor : Option String) : Except Fault (List (Group C)) :=
  (cs.filter (parentId · = anchor.getD "")).mapM (group cs)

/-! ## Upwards -/

/-- The comments above `c`, the nearest first, as long as there is one with a new id. -/
def above (cs : List C) (seen : List String) (c : C) : List C :=
  match find? cs (parentId c) with
  | some parent =>
    if IsNew cs seen (entryId parent) then parent :: above cs (entryId parent :: seen) parent else []
  | none => []
termination_by (unseen cs seen).length
decreasing_by exact unseen_cons_lt ‹_›

/-- The thread that leads to the target, the start first. In front stands `none`, the place where no further comment
was found; a target that is not in the list gives `none` alone. -/
def ancestry (cs : List C) (target : String) : List (Option C) :=
  match find? cs target with
  | some c => none :: ((c :: above cs [entryId c] c).reverse.map some)
  | none => [none]

end Thread

end Hyperlink
