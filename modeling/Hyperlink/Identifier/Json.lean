import Hyperlink.Identifier.Basic
import Hyperlink.Json.Record

/-!
# Hyperlink.Identifier.Json — links and their parts as JSON

* A type is its key, or an object with the key as its only member and null as the value.
* A range is an object with `start` and `stop` under the keys `start` and `end`, or one with `expanded`; the first
  form is tried first, and a form fails if one of its keys occurs twice. All of the object has to be usable.
* A block reference is an object with `blockId`, next to which the members of the range stand. Members that form no
  range are ignored.
* An identifier is an object with ten members or the array of their values in order. The members `id`, `type` and
  `uid` have to be there; `latest` is false by default, all others null.
-/

namespace Hyperlink

open Json (member? required optional defaulting string? bool? uint32? list? nullable tagged?)

namespace EntityType

/-- Writes a type. -/
def toJson (t : EntityType) : Json := .string t.key

/-- Reads a type. -/
def ofJson? (j : Json) : Option EntityType :=
  match j with
  | .string key => ofKey? key
  | j =>
    match tagged? j with
    | some (key, .null) => ofKey? key
    | _ => none

end EntityType

namespace BlockRange

/-- The members of a range. -/
def toMembers : BlockRange → List (String × Json)
  | span start stop => [("start", .ofNat start.toNat), ("end", .ofNat stop.toNat)]
  | expanded on => [("expanded", .bool on)]

/-- Writes a range. -/
def toJson (r : BlockRange) : Json := .object r.toMembers

/-- The range that the members form: a part of the text, or else an expanded block. -/
def ofMembers? (members : List (String × Json)) : Option BlockRange :=
  let spanned : Option BlockRange := do
    return span (← required members "start" uint32?) (← required members "end" uint32?)
  spanned <|> (required members "expanded" bool?).map expanded

/-- Reads a range. -/
def ofJson? : Json → Option BlockRange
  | .object members => if Json.membersUsable members then ofMembers? members else none
  | _ => none

/-- Writes a range that may be missing. -/
def optionalToJson (r : Option BlockRange) : Json := r.elim .null toJson

end BlockRange

namespace BlockRef

/-- Writes a block reference. -/
def toJson (b : BlockRef) : Json :=
  .object (("blockId", .string b.blockId) :: (b.range.map BlockRange.toMembers).getD [])

/-- Reads a block reference. -/
def ofJson? : Json → Option BlockRef
  | .object members => do
    let blockId ← required members "blockId" string?
    let others := members.filter (·.1 ≠ "blockId")
    if Json.membersUsable others then some ⟨blockId, BlockRange.ofMembers? others⟩ else none
  | _ => none

end BlockRef

namespace Identifier

/-- Writes a path that may be missing. -/
def pathToJson (path : Option (List String)) : Json := path.elim .null fun p => .array (p.map .string)

/-- The values of the fields in order. -/
def toFields (x : Identifier) : List (String × Json) :=
  [("id", .string x.id), ("type", x.entityType.toJson), ("uid", .string x.uid), ("path", pathToJson x.path),
   ("version", .ofText? x.view.version), ("latest", .bool x.view.latest), ("blockRef", .ofText? x.view.blockRef),
   ("blockRange", BlockRange.optionalToJson x.view.blockRange), ("hostname", .ofText? x.hostname),
   ("scheme", .ofText? x.scheme)]

/-- Writes an identifier. -/
def toJson (x : Identifier) : Json := .object x.toFields

/-- Reads the members of an identifier. -/
def ofMembers? (ms : List (String × Json)) : Option Identifier := do
  let id ← required ms "id" string?
  let entityType ← required ms "type" EntityType.ofJson?
  let uid ← required ms "uid" string?
  let path ← optional ms "path" (list? string?)
  let version ← optional ms "version" string?
  let latest ← defaulting ms "latest" false bool?
  let blockRef ← optional ms "blockRef" string?
  let blockRange ← optional ms "blockRange" BlockRange.ofJson?
  let hostname ← optional ms "hostname" string?
  let scheme ← optional ms "scheme" string?
  return { id, entityType, uid, path, view := { version, latest, blockRef, blockRange }, hostname, scheme }

/-- Reads the values of the ten fields in order. -/
def ofItems? : List Json → Option Identifier
  | [id, entityType, uid, path, version, latest, blockRef, blockRange, hostname, scheme] => do
    let id ← string? id
    let entityType ← EntityType.ofJson? entityType
    let uid ← string? uid
    let path ← nullable (list? string?) path
    let version ← nullable string? version
    let latest ← bool? latest
    let blockRef ← nullable string? blockRef
    let blockRange ← nullable BlockRange.ofJson? blockRange
    let hostname ← nullable string? hostname
    let scheme ← nullable string? scheme
    return { id, entityType, uid, path, view := { version, latest, blockRef, blockRange }, hostname, scheme }
  | _ => none

/-- Reads an identifier. -/
def ofJson? : Json → Option Identifier
  | .object members => ofMembers? members
  | .array items => ofItems? items
  | _ => none

end Identifier

namespace Error

/-- Writes an error as an object with its kind as the only key. -/
def toJson (e : Error) : Json := .object [(e.kind, .string e.text)]

/-- Reads an error. -/
def ofJson? (j : Json) : Option Error := do
  let (kind, text) ← tagged? j
  ofKind? kind (← string? text)

end Error

end Hyperlink
