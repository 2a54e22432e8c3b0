import Hyperlink.Identifier.Unpack
import Hyperlink.Json.Record
import Hyperlink.Thread

/-!
# Hyperlink.Comment — comments as a store delivers them

A comment is read from an object or from an array of its fields in order. Only the id has to be there. The content is
any JSON value; it is kept with the keys of its objects sorted.
-/

namespace Hyperlink

open Json (required optional defaulting string? nullable any?)

/-- A comment on a document. -/
structure Comment where
  id : String
  /-- The packed link of the document. -/
  target : String := ""
  /-- The id of the comment that this one replies to; empty at the top level. -/
  repliedComment : String := ""
  author : String := ""
  content : Json := .null
  createTime : Option String := none

instance : ThreadEntry Comment where
  entryId := Comment.id
  parentId := Comment.repliedComment

namespace Comment

/-- The identifier of the document that the comment is about. -/
def targetId (c : Comment) : Except Fault (Option Identifier) := Identifier.unpack c.target

/-- Writes a comment. -/
def toJson (c : Comment) : Json :=
  .object
    [("id", .string c.id), ("target", .string c.target), ("repliedComment", .string c.repliedComment),
     ("author", .string c.author), ("content", c.content), ("createTime", .ofText? c.createTime)]

/-- Reads the members of a comment. -/
def ofMembers? (ms : List (String × Json)) : Option Comment := do
  let id ← required ms "id" string?
  let target ← defaulting ms "target" "" string?
  let repliedComment ← defaulting ms "repliedComment" "" string?
  let author ← defaulting ms "author" "" string?
  let content ← defaulting ms "content" .null any?
  let createTime ← optional ms "createTime" string?
  return { id, target, repliedComment, author, content, createTime }

/-- The first value of a list read, or the default for an empty list, and the values behind it. -/
def nextItem {α : Type} (default : α) (read : Json → Option α) : List Json → Option (α × List Json)
  | [] => some (default, [])
  | j :: rest => (read j).map (·, rest)

/-- Reads the values of the fields in order. Fields missing at the end take their defaults. -/
def ofItems? : List Json → Option Comment
  | [] => none
  | id :: items => do
    let id ← string? id
    let (target, items) ← nextItem "" string? items
    let (repliedComment, items) ← nextItem "" string? items
    let (author, items) ← nextItem "" string? items
    let (content, items) ← nextItem .null any? items
    let (createTime, items) ← nextItem none (nullable string?) items
    if items.isEmpty then some { id, target, repliedComment, author, content, createTime } else none

/-- Reads a comment. -/
def ofJson? : Json → Option Comment
  | .object members => ofMembers? members
  | .array items => ofItems? items
  | _ => none

/-- Reads a list of comments. -/
def listOfJson? : Json → Option (List Comment) := Json.list? ofJson?

end Comment

/-- Writes a group of comments. -/
def Group.toJson (g : Group Comment) : Json :=
  .object
    [("id", .string g.id), ("comments", .array (g.comments.map Comment.toJson)),
     ("moreCommentsCount", .ofNat g.moreComments)]

/-- Writes a thread, in which null marks the place where no further comment was found. -/
def Thread.toJson (thread : List (Option Comment)) : Json :=
  .array (thread.map fun c => c.elim .null Comment.toJson)

end Hyperlink
