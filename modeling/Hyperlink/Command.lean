import Hyperlink.Comment
import Hyperlink.Identifier.Canonical
import Hyperlink.Identifier.Json
import Hyperlink.Thread.Index

/-!
# Hyperlink.Command — what a shell can ask of the library

A `Command` names one operation with its arguments, `Command.run` carries it out, and an `Answer` holds the result.
Commands are written and read as JSON objects whose only key is the name of the command.
-/

namespace Hyperlink

open Json (required optional string? nullable tagged?)

/-- An operation with its arguments. -/
inductive Command
  /-- Read a compact link or a link of the web. -/
  | unpack (link : String)
  /-- Write the compact link of an identifier. -/
  | pack (x : Identifier)
  /-- Write the URL of an identifier. No host means the public gateway, an empty one the path alone. -/
  | webUrl (x : Identifier) (host : Option String)
  /-- Bring a link to its compact form. -/
  | normalize (link : String)
  /-- Write a link at another version and block. -/
  | withVersion (id : String) (version blockRef : Option String) (range : Option BlockRange)
  /-- Group the comments below the target, or those of the top level. -/
  | groups (comments : List Comment) (target : Option String)
  /-- Find the thread that leads to the target. -/
  | replies (comments : List Comment) (target : String)

/-- The result of a command. -/
inductive Answer
  | identifier (x : Identifier)
  | link (text : String)
  | groups (gs : List (Group Comment))
  | thread (comments : List (Option Comment))

namespace Command

/-- The link, or an error if there is none. -/
def linkOr (e : Error) : Option String → Except Error Answer
  | some text => .ok (.link text)
  | none => .error e

/-- Carries out a command. Only `normalize` looks at the gateway. -/
def run (c : Command) (gateway : String) : Except Fault (Except Error Answer) := do
  match c with
  | unpack link => return (← Identifier.parse link).map .identifier
  | pack x => return .ok (.link x.pack)
  | webUrl x host => return .ok (.link (x.webUrl (.ofText? host)))
  | normalize link => return linkOr (.notOnGateway link gateway) (← normalizeLink link gateway)
  | withVersion id version blockRef range =>
    return linkOr (.notALink id) (← linkWithVersion (some id) version blockRef range)
  | groups comments target => return .ok (.groups (← Thread.Index.groups comments target))
  | replies comments target => return .ok (.thread (← Thread.Index.ancestry comments target))

/-- A short text about the command. -/
def describe : Command → String
  | unpack link => s!"Unpack({link})"
  | pack x => s!"Pack({x.id})"
  | webUrl x host => "WebUrl(" ++ x.id ++ ", host: " ++ host.getD "<gateway>" ++ ")"
  | normalize link => s!"Normalize({link})"
  | withVersion id version _ _ => "WithVersion(" ++ id ++ ", version: " ++ version.getD "<unchanged>" ++ ")"
  | groups comments target =>
    "Groups(" ++ toString comments.length ++ " comments, target: " ++ target.getD "<top level>" ++ ")"
  | replies comments target => "Replies(" ++ toString comments.length ++ " comments, target: " ++ target ++ ")"

/-! ## JSON -/

/-- Writes a list of comments. -/
def commentsToJson (comments : List Comment) : Json := .array (comments.map Comment.toJson)

/-- The name of the command and its arguments as JSON. -/
def toTagged : Command → String × Json
  | unpack link => ("Unpack", .string link)
  | pack x => ("Pack", x.toJson)
  | webUrl x host => ("WebUrl", .array [x.toJson, .ofText? host])
  | normalize link => ("Normalize", .string link)
  | withVersion id version blockRef range =>
    ("WithVersion", .object
      [("id", .string id), ("version", .ofText? version), ("block_ref", .ofText? blockRef),
       ("block_range", BlockRange.optionalToJson range)])
  | groups comments target =>
    ("Groups", .object [("comments", commentsToJson comments), ("target", .ofText? target)])
  | replies comments target =>
    ("Replies", .object [("comments", commentsToJson comments), ("target", .string target)])

/-- Writes a command. -/
def toJson (c : Command) : Json := .object [c.toTagged]

/-- Reads the arguments of `webUrl`: an array of an identifier and a host. -/
def webUrlOfJson? : Json → Option Command
  | .array [x, host] => do return webUrl (← Identifier.ofJson? x) (← nullable string? host)
  | _ => none

/-- Reads the arguments of `withVersion`: an object, or the array of all four values. -/
def withVersionOfJson? : Json → Option Command
  | .object ms => do
    let id ← required ms "id" string?
    let version ← optional ms "version" string?
    let blockRef ← optional ms "block_ref" string?
    let range ← optional ms "block_range" BlockRange.ofJson?
    return withVersion id version blockRef range
  | .array [id, version, blockRef, range] => do
    let id ← string? id
    let version ← nullable string? version
    let blockRef ← nullable string? blockRef
    let range ← nullable BlockRange.ofJson? range
    return withVersion id version blockRef range
  | _ => none

/-- Reads the arguments of `groups`: an object, or the array of both values. -/
def groupsOfJson? : Json → Option Command
  | .object ms => do
    let comments ← required ms "comments" Comment.listOfJson?
    return groups comments (← optional ms "target" string?)
  | .array [comments, target] => do return groups (← Comment.listOfJson? comments) (← nullable string? target)
  | _ => none

/-- Reads the arguments of `replies`: an object, or the array of both values. -/
def repliesOfJson? : Json → Option Command
  | .object ms => do
    let comments ← required ms "comments" Comment.listOfJson?
    return replies comments (← required ms "target" string?)
  | .array [comments, target] => do return replies (← Comment.listOfJson? comments) (← string? target)
  | _ => none

/-- Reads a command. -/
def ofJson? (j : Json) : Option Command := do
  let (name, arguments) ← tagged? j
  match name with
  | "Unpack" => (string? arguments).map unpack
  | "Pack" => (Identifier.ofJson? arguments).map pack
  | "WebUrl" => webUrlOfJson? arguments
  | "Normalize" => (string? arguments).map normalize
  | "WithVersion" => withVersionOfJson? arguments
  | "Groups" => groupsOfJson? arguments
  | "Replies" => repliesOfJson? arguments
  | _ => none

end Command

namespace Answer

/-- The name of the answer and its content as JSON. -/
def toTagged : Answer → String × Json
  | identifier x => ("Id", x.toJson)
  | link text => ("Link", .string text)
  | groups gs => ("Groups", .array (gs.map Group.toJson))
  | thread comments => ("Replies", Thread.toJson comments)

/-- Writes an answer. -/
def toJson (a : Answer) : Json := .object [a.toTagged]

/-- A short text about the answer. -/
def describe : Answer → String
  | identifier x => s!"Id({x.id})"
  | link text => s!"Link({text})"
  | groups gs => "Groups(" ++ ", ".intercalate (gs.map fun g => g.id ++ "+" ++ toString g.moreComments) ++ ")"
  | thread comments => "Replies(" ++ " > ".intercalate (comments.map fun c => c.elim "-" Comment.id) ++ ")"

end Answer

end Hyperlink
