/-!
# Hyperlink.Fault — promises between the steps of a computation

Some steps rely on a promise of the step before them: an identifier is built from a uid that is not empty, a chain
of replies has a last comment, a set of reached ids holds the id it started from, a table holds positions of the list
that it was made of. A step that finds such a promise broken stops with a `Fault`. A fault is no answer to a caller's
input: the errors of a caller are `Hyperlink.Error`.

* `lastOf`, `precOf`: the last entry of a list and the predecessor of a number, both promised to exist.
* `entryAt`, `slice`: the entry at a position and the entries between two positions, promised to lie in the list.
* `partOf`: the part of a text that is named in a match, promised to be there.
-/

namespace Hyperlink

/-- A broken promise between two steps. -/
inductive Fault
  /-- An identifier was to be built without a uid. -/
  | missingUid
  /-- The last entry of an empty list was asked for. -/
  | noLastEntry
  /-- The predecessor of zero was asked for. -/
  | belowZero
  /-- A position does not lie in its list. -/
  | outOfRange
  /-- A match does not name the part that was asked for. -/
  | missingPart
  deriving DecidableEq, Repr

namespace Fault

/-- The text that describes the broken promise. -/
def message : Fault → String
  | missingUid => "uid is required"
  | noLastEntry => "a chain has a last comment"
  | belowZero => "a count is not negative"
  | outOfRange => "a position lies in its list"
  | missingPart => "a match names its parts"

/-- The last entry of a list that is promised to have one. -/
def lastOf {α : Type} (xs : List α) : Except Fault α :=
  match xs.getLast? with
  | some x => .ok x
  | none => .error noLastEntry

/-- The predecessor of a number that is promised not to be zero. -/
def precOf : Nat → Except Fault Nat
  | 0 => .error belowZero
  | n + 1 => .ok n

/-- The entry at a position that is promised to lie in the list. -/
def entryAt {α : Type} (xs : List α) (i : Nat) : Except Fault α :=
  match xs[i]? with
  | some x => .ok x
  | none => .error outOfRange

/-- The entries from the position `start` up to the position `stop`, which are promised to lie in the list in this
order. -/
def slice {α : Type} (xs : List α) (start stop : Nat) : Except Fault (List α) :=
  if start ≤ stop ∧ stop ≤ xs.length then .ok ((xs.take stop).drop start) else .error outOfRange

/-- The part with the name, which is promised to be one of the parts. -/
def partOf {α : Type} (parts : List (String × α)) (name : String) : Except Fault α :=
  match parts.lookup name with
  | some part => .ok part
  | none => .error missingPart

/-! ## Kept promises -/

theorem entryAt_eq_ok_iff {α : Type} {xs : List α} {i : Nat} {x : α} : entryAt xs i = .ok x ↔ xs[i]? = some x := by
  unfold entryAt
  cases xs[i]? <;> simp

theorem slice_eq {α : Type} {xs : List α} {start stop : Nat} (h : start ≤ stop) (h' : stop ≤ xs.length) :
    slice xs start stop = .ok ((xs.take stop).drop start) := by
  unfold slice
  rw [if_pos ⟨h, h'⟩]

theorem slice_append {α : Type} (before kept after : List α) :
    slice (before ++ kept ++ after) before.length (before ++ kept).length = .ok kept := by
  rw [slice_eq (by simp) (by simp), List.take_left, List.drop_left]

end Fault

end Hyperlink
