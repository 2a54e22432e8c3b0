import Hyperlink.Json.Value

/-!
# Hyperlink.Json.Record — reading records from JSON

A record is an object with known keys or an array of its fields in order. In an object other keys are skipped,
whatever their value, and a known key must not occur twice.

A reader of a field is a function `Json → Option α`. `required`, `optional` and `defaulting` look up a member and read
it: a missing member fails, is none, or takes its default. In an optional field null is none as well.
-/

namespace Hyperlink.Json

/-! ## Readers of single values -/

/-- Reads a string. -/
def string? : Json → Option String
  | string s => some s
  | _ => none

/-- Reads a truth value. -/
def bool? : Json → Option Bool
  | bool b => some b
  | _ => none

/-- Reads a whole number of 32 bits without a sign. -/
def uint32? : Json → Option UInt32
  | number (.integer n) => if 0 ≤ n ∧ n < UInt32.size then some (UInt32.ofNat n.toNat) else none
  | _ => none

/-- Reads a list of values. -/
def list? {α : Type} (read : Json → Option α) : Json → Option (List α)
  | array items => items.mapM read
  | _ => none

/-- Reads a value that may be null. -/
def nullable {α : Type} (read : Json → Option α) : Json → Option (Option α)
  | null => some none
  | j => (read j).map some

/-- Reads any usable value, with the keys of objects sorted. -/
def any? (j : Json) : Option Json := if j.isUsable then some j.sorted else none

/-! ## Members of objects -/

/-- The member with the key: `none` if the key occurs twice, `some none` if it is missing. -/
def member? (members : List (String × Json)) (key : String) : Option (Option Json) :=
  match members.filter (·.1 = key) with
  | [] => some none
  | [m] => some (some m.2)
  | _ => none

/-- Reads a member that has to be there. -/
def required {α : Type} (members : List (String × Json)) (key : String) (read : Json → Option α) : Option α := do
  read (← ← member? members key)

/-- Reads a member that may be missing or null. -/
def optional {α : Type} (members : List (String × Json)) (key : String) (read : Json → Option α) :
    Option (Option α) := do
  match ← member? members key with
  | some j => nullable read j
  | none => some none

/-- Reads a member that has a default. -/
def defaulting {α : Type} (members : List (String × Json)) (key : String) (default : α) (read : Json → Option α) :
    Option α := do
  match ← member? members key with
  | some j => read j
  | none => some default

/-! ## Tagged values -/

/-- The tag and the content of a value that is an object with one member. -/
def tagged? : Json → Option (String × Json)
  | object [m] => some m
  | _ => none

end Hyperlink.Json
