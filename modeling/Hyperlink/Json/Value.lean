import Hyperlink.Dictionary

/-!
# Hyperlink.Json.Value — JSON values

A value as a text spells it: the members of an object stand in the order of the text, and a key may occur more than
once. Some values are well-formed but cannot be used: they lie too deep, hold half of a surrogate pair, or are numbers
beyond every double. They are `refused`, and a reader may only skip them.

* `isUsable`: whether no part of a value is refused.
* `sorted`: the value with the members of all objects in ascending order of their keys, one per key.
-/

namespace Hyperlink

/-- The numbers of JSON. -/
inductive Json.Number
  /-- A whole number without fraction and exponent that has at most 64 bits. -/
  | integer (n : Int)
  /-- Any other number: the shortest text of the double that is nearest to it. -/
  | decimal (text : String)
  deriving DecidableEq, Repr

/-- A JSON value. -/
inductive Json
  | null
  | bool (b : Bool)
  | number (n : Json.Number)
  | string (s : String)
  | array (items : List Json)
  | object (members : List (String × Json))
  /-- A value that cannot be used, only skipped. -/
  | refused
  deriving Inhabited

namespace Json

mutual

/-- Whether no part of the value is refused. -/
def isUsable : Json → Bool
  | null | bool _ | number _ | string _ => true
  | array items => itemsUsable items
  | object members => membersUsable members
  | refused => false

/-- Whether all items are usable. -/
def itemsUsable : List Json → Bool
  | [] => true
  | v :: vs => isUsable v && itemsUsable vs

/-- Whether the values of all members are usable. -/
def membersUsable : List (String × Json) → Bool
  | [] => true
  | (_, v) :: ms => isUsable v && membersUsable ms

end

mutual

/-- The value with the members of all objects in ascending order of their keys; the last member of a key wins. -/
def sorted : Json → Json
  | null => null
  | bool b => bool b
  | number n => number n
  | string s => string s
  | array items => array (sortedItems items)
  | object members => object (Dictionary.ofPairs (sortedMembers members))
  | refused => refused

/-- The items, each sorted. -/
def sortedItems : List Json → List Json
  | [] => []
  | v :: vs => sorted v :: sortedItems vs

/-- The members with their values sorted. -/
def sortedMembers : List (String × Json) → List (String × Json)
  | [] => []
  | (k, v) :: ms => (k, sorted v) :: sortedMembers ms

end

/-- A whole number as a value. -/
def ofNat (n : Nat) : Json := number (.integer n)

/-- A text, or null if it is missing. -/
def ofText? : Option String → Json
  | some s => string s
  | none => null

/-- The integers that JSON numbers can hold: signed and unsigned ones of 64 bits. -/
def integerFits (n : Int) : Bool := -0x8000000000000000 ≤ n && n < 0x10000000000000000

end Json

end Hyperlink
