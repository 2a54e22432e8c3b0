import Hyperlink.EntityType
import Hyperlink.Fault
import Hyperlink.Scheme
import Hyperlink.View

/-!
# Hyperlink.Identifier.Basic — identifiers and how they are built

An `Identifier` says which entity a link names, how to show it and where the link came from. Its `id` is the compact
link of the entity alone, without view parameters and host, so it is a key of the entity.

* `Identifier.build`: the identifier of given parts in normal form: no empty segment at either end of the path, no
  empty text where a missing one is meant, a range only behind a block.
* `Identifier.create`: the same for a uid of unknown origin, which may be empty.
* `Identifier.withVersion`: the identifier at another version and block.
-/

namespace Hyperlink

/-- The structured form of a link. A record that was read from elsewhere need not be in normal form. -/
structure Identifier where
  /-- The compact link of the entity alone. -/
  id : String
  entityType : EntityType
  uid : String
  path : Option (List String)
  view : View
  hostname : Option String
  /-- The scheme of the link that was read, as it was written. -/
  scheme : Option String
  deriving DecidableEq, Repr

/-- The parts of an identifier that may be missing. -/
structure Options where
  path : Option (List String) := none
  view : View := {}
  hostname : Option String := none
  deriving DecidableEq, Repr

namespace Identifier

/-- The text of a path with a slash in front. A path without segments has none. -/
def pathText : Option (List String) → String
  | some (p :: ps) => "/" ++ "/".intercalate (p :: ps)
  | _ => ""

/-- The type and the uid as links write them: documents leave out their type. -/
def entityText (t : EntityType) (uid : String) : String :=
  if t.isDefault then uid else t.key ++ "/" ++ uid

/-- The compact link of an entity alone. -/
def baseLink (t : EntityType) (uid : String) (path : Option (List String)) : String :=
  Scheme.hypermediaText ++ "://" ++ entityText t uid ++ pathText path

/-- The path without empty segments at either end; if nothing is left there is no path. -/
def normalizePath (path : Option (List String)) : Option (List String) :=
  match path.map (Text.stripEnds (· = "")) with
  | some (p :: ps) => some (p :: ps)
  | _ => none

/-- The path from its first to its last segment that is not empty, cut out by their positions. What it gives is the path
in normal form. -/
def cutPath : Option (List String) → Except Fault (Option (List String))
  | none => .ok none
  | some segments =>
    match segments.findIdx? (· ≠ "") with
    | none => .ok none
    | some start =>
      let stop := (segments.reverse.findIdx? (· ≠ "")).elim start (segments.length - ·)
      (Fault.slice segments start stop).map some

/-- The view without empty texts, and with a range only if it is written behind a block. -/
def normalizeView (v : View) : View :=
  let block := View.nonempty v.blockRef
  { version := View.nonempty v.version
    latest := v.latest
    blockRef := block
    blockRange := if block.isSome then v.blockRange.filter (· ≠ .expanded false) else none }

/-- The identifier of the given parts in normal form. The uid is promised not to be empty. -/
def build (t : EntityType) (uid : String) (o : Options) : Except Fault Identifier :=
  if uid = "" then .error .missingUid
  else do
    let path ← cutPath o.path
    return {
      id := baseLink t uid path
      entityType := t
      uid := uid
      path := path
      view := normalizeView o.view
      hostname := View.nonempty o.hostname
      scheme := none }

/-- The identifier of the given parts, or an error if the uid is empty. -/
def create (t : EntityType) (uid : String) (o : Options) : Except Fault (Except Error Identifier) :=
  if uid = "" then .ok (.error .uidRequired) else (build t uid o).map .ok

/-- The identifier of a document. -/
def document (uid : String) (o : Options) : Except Fault Identifier := build .document uid o

/-- The compact link of the identifier with its view parameters. -/
def pack (x : Identifier) : String := baseLink x.entityType x.uid x.path ++ x.view.suffix

/-- The identifier at another version and block. Without a version, or with an empty one, its own is kept. The block
is replaced in any case, the path is kept, and host and latest flag are dropped. -/
def withVersion (x : Identifier) (version blockRef : Option String) (range : Option BlockRange) :
    Except Fault Identifier :=
  build x.entityType x.uid
    { path := x.path
      view := { version := (View.nonempty version).or x.view.version, blockRef := blockRef, blockRange := range } }

end Identifier

end Hyperlink
