import Hyperlink.Block.Pattern
import Hyperlink.Identifier.Basic
import Hyperlink.Identifier.Web
import Hyperlink.Locator

/-!
# Hyperlink.Identifier.Unpack — reading links

Two forms of link are read: compact links `hm://[<type>/]<uid>[/<path>]…` and links of the web
`http(s)://<host>/hm/[<type>/]<uid>[/<path>]…`. Everything else is no link.

* `Address.ofLocator?`, `Identifier.viewOf`: the entity that the path of a link names with its host, and the view
  parameters. `Address.locate` and `Identifier.readView` find the same by the positions in the path and by the parts of
  a match.
* `Identifier.unpack`: the identifier of a link.
-/

namespace Hyperlink

/-- The entity that a link names and the host the link lies on. -/
structure Address where
  hostname : Option String
  entityType : EntityType
  uid : String
  path : List String
  deriving DecidableEq, Repr

namespace Address

/-- The entity that the segments name: a segment that is the key of a type stands in front of the uid, any other is
itself the uid of a document. -/
def ofSegments? (hostname : Option String) : List String → Option Address
  | [] => none
  | head :: rest =>
    let address? : Option Address :=
      match EntityType.ofKey? head with
      | some t =>
        match rest with
        | uid :: path => some ⟨hostname, t, uid, path⟩
        | [] => none
      | none => some ⟨hostname, .document, head, rest⟩
    address?.filter (·.uid ≠ "")

/-- The entity that the path names. In a link of the web it stands behind the host and the marker. -/
def ofLocator? (l : Locator) : Option Address :=
  match Scheme.ofText l.scheme with
  | .hypermedia => ofSegments? none l.path
  | .http | .https =>
    match l.path with
    | host :: marker :: segments => if marker = webMarker then ofSegments? (some host) segments else none
    | _ => none
  | .other => none

/-- The same entity, with the segments behind the first one of a compact link cut out by their positions. -/
def locate (l : Locator) : Except Fault (Option Address) :=
  match Scheme.ofText l.scheme, l.segment? 0 with
  | .hypermedia, some head => do return ofSegments? none (head :: (← Fault.slice l.path 1 l.path.length))
  | _, _ => .ok (ofLocator? l)

end Address

namespace Identifier

/-- The view parameters of a link. -/
def viewOf (l : Locator) : View :=
  let block := l.fragment.bind BlockRef.parse?
  { version := l.value? "v"
    latest := l.hasKey "l"
    blockRef := block.map BlockRef.blockId
    blockRange := block.bind BlockRef.range }

/-- The same view, with the fragment read by the parts that a match names. -/
def readView (l : Locator) : Except Fault View := do
  let block ← BlockRef.readOptional l.fragment
  return {
    version := l.value? "v"
    latest := l.hasKey "l"
    blockRef := block.map BlockRef.blockId
    blockRange := block.bind BlockRef.range }

/-- The identifier of the parts of a link. -/
def ofLocator (l : Locator) : Except Fault (Option Identifier) := do
  match ← Address.locate l with
  | none => return none
  | some a =>
    let view ← readView l
    let x ← build a.entityType a.uid { path := some a.path, view, hostname := a.hostname }
    return some { x with scheme := some l.scheme }

/-- The identifier of a compact link or a link of the web; other texts have none. -/
def unpack (link : String) : Except Fault (Option Identifier) :=
  match Locator.parse? link with
  | none => .ok none
  | some l => ofLocator l

/-- The identifier of a link, or an error for a text that is no link. -/
def parse (link : String) : Except Fault (Except Error Identifier) := do
  match ← unpack link with
  | some x => return .ok x
  | none => return .error (.notALink link)

end Identifier

end Hyperlink
