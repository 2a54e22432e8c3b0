import Hyperlink.Error

/-!
# Hyperlink.EntityType — the kinds of entity a link can point at

Each kind has a key, which stands in links and in JSON, and a label for people. Links leave out the key of the
default kind, the document.
-/

namespace Hyperlink

/-- The kinds of entity, in ascending order. -/
inductive EntityType
  | document
  | comment
  | draft
  deriving DecidableEq, Repr, Inhabited

namespace EntityType

/-- All kinds in ascending order. -/
def all : List EntityType := [document, comment, draft]

/-- The key of a kind in links and in JSON. -/
def key : EntityType → String
  | document => "d"
  | comment => "comment"
  | draft => "draft"

/-- The kind with the key. -/
def ofKey? (key : String) : Option EntityType := all.find? (·.key = key)

/-- The kind with the key, or an error for any other text. -/
def parse (key : String) : Except Error EntityType :=
  match ofKey? key with
  | some t => .ok t
  | none => .error (.unknownType key)

/-- Whether the kind is the one that links leave out. -/
def isDefault (t : EntityType) : Bool := t = document

/-- The label for people. -/
def label : EntityType → String
  | document => "Document"
  | comment => "Comment"
  | draft => "Local Draft"

/-- The place of a kind in the order. -/
def rank : EntityType → Nat
  | document => 0
  | comment => 1
  | draft => 2

instance : Ord EntityType := ⟨fun a b => compare a.rank b.rank⟩

@[simp] theorem ofKey?_key (t : EntityType) : ofKey? t.key = some t := by cases t <;> decide

theorem key_of_ofKey? {k : String} {t : EntityType} (h : ofKey? k = some t) : t.key = k := by
  simpa using List.find?_some h

end EntityType

end Hyperlink
