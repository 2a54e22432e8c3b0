/-!
# Hyperlink.Toml.Value — TOML documents as trees of tables

A `Node` is a value, a table or an array of tables. A table remembers how it came about: `implicit` if it was only
named on the way to another one, `dotted` if it was named by the dots of a key. What may still be added to it depends on
that.

* `Entries.addPair?`: adds a pair under a dotted key. Nothing may be defined twice, and a table that has a heading of
  its own is not open to dotted keys.
* `Entries.updateAt?`: changes the table at the end of a row of keys, making the tables on the way as needed.
* `Entries.addSection?`: adds the pairs that stand below a heading.
-/

namespace Hyperlink.Toml

/-- The values that are neither array nor table. -/
inductive Scalar
  | string (s : String)
  | boolean (b : Bool)
  | integer (n : Int)
  | float (text : String)
  | dateTime (text : String)
  deriving DecidableEq, Repr

/-- A part of a document. -/
inductive Node
  | scalar (s : Scalar)
  | array (items : List Node)
  /-- A table that was written as a value. Nothing can be added to it. -/
  | inlineTable (entries : List (String × Node))
  | table (implicit dotted : Bool) (entries : List (String × Node))
  /-- The tables of an array, the last one apart. -/
  | tables (before : List (List (String × Node))) (last : List (String × Node))
  deriving Inhabited

/-- The pairs of a table. -/
abbrev Entries := List (String × Node)

namespace Entries

/-- The entry with the key. -/
def get? (es : Entries) (key : String) : Option Node := (es.find? (·.1 = key)).map Prod.snd

/-- Puts an entry in the place of the one with the same key, or at the end. -/
def set (es : Entries) (key : String) (node : Node) : Entries :=
  if es.any (·.1 = key) then es.map fun e => if e.1 = key then (key, node) else e else es ++ [(key, node)]

/-- Adds a pair under the keys. `isOpen` says whether the table that they start from takes pairs; a table that is
reached by dots takes them if dots made it. -/
def addPair? (es : Entries) (isOpen : Bool) (keys : List String) (value : Node) : Option Entries :=
  match keys with
  | [] => none
  | [key] => if isOpen ∧ (es.get? key).isNone then some (es ++ [(key, value)]) else none
  | key :: rest =>
    match es.get? key with
    | none => (addPair? [] true rest value).map fun inner => es.set key (.table true true inner)
    | some (.table implicit dotted inner) =>
      if implicit then (addPair? inner dotted rest value).map fun inner => es.set key (.table implicit dotted inner)
      else none
    | some (.tables before last) =>
      (addPair? last false rest value).map fun last => es.set key (.tables before last)
    | some _ => none

/-- Adds the pairs to a table that takes them. -/
def addPairs? (es : Entries) (pairs : List (List String × Node)) : Option Entries :=
  pairs.foldlM (fun es p => es.addPair? true p.1 p.2) es

/-- Changes the table at the end of the keys. Of an array of tables it is the last one. -/
def updateAt? (change : Entries → Option Entries) (es : Entries) : List String → Option Entries
  | [] => change es
  | key :: rest =>
    match es.get? key with
    | none => (updateAt? change [] rest).map fun inner => es.set key (.table true false inner)
    | some (.table implicit dotted inner) =>
      (updateAt? change inner rest).map fun inner => es.set key (.table implicit dotted inner)
    | some (.tables before last) => (updateAt? change last rest).map fun last => es.set key (.tables before last)
    | some _ => none

end Entries

/-- The headings of sections. -/
inductive Heading
  /-- `[keys]`. -/
  | table (keys : List String)
  /-- `[[keys]]`. -/
  | tables (keys : List String)
  deriving DecidableEq, Repr

/-- A heading and the pairs below it. -/
structure Section where
  heading : Heading
  pairs : List (List String × Node)

namespace Entries

/-- Adds a table with a heading of its own. It may have been named on the way to others, but not defined. -/
def addTable? (pairs : List (List String × Node)) (key : String) (es : Entries) : Option Entries :=
  match es.get? key with
  | none => (addPairs? [] pairs).map fun inner => es.set key (.table false false inner)
  | some (.table true false inner) => (addPairs? inner pairs).map fun inner => es.set key (.table false false inner)
  | some _ => none

/-- Adds a table to an array of tables. -/
def appendTable? (pairs : List (List String × Node)) (key : String) (es : Entries) : Option Entries :=
  match es.get? key with
  | none => (addPairs? [] pairs).map fun inner => es.set key (.tables [] inner)
  | some (.tables before last) =>
    (addPairs? [] pairs).map fun inner => es.set key (.tables (before ++ [last]) inner)
  | some _ => none

/-- Adds the table of a section. -/
def addSection? (es : Entries) (s : Section) : Option Entries :=
  match s.heading with
  | .table keys =>
    match keys.getLast? with
    | some key => updateAt? (addTable? s.pairs key) es keys.dropLast
    | none => none
  | .tables keys =>
    match keys.getLast? with
    | some key => updateAt? (appendTable? s.pairs key) es keys.dropLast
    | none => none

end Entries

/-- The pairs of a text in front of the first heading, and its sections. -/
structure Document where
  pairs : List (List String × Node)
  sections : List Section

/-- The outermost table of a document. -/
def Document.root? (d : Document) : Option Entries := do
  d.sections.foldlM Entries.addSection? (← Entries.addPairs? [] d.pairs)

end Hyperlink.Toml
