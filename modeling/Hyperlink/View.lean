import Hyperlink.Block

/-!
# Hyperlink.View — how an entity is to be shown

A link names an entity and, behind it, how to show it: at a version, at the latest one, at a block. `View.suffix`
writes these parameters as `?v=<version>&l#<block>`, leaving out what is absent. Nothing is escaped.
-/

namespace Hyperlink

/-- The parameters of a link that do not change the entity it names. -/
structure View where
  version : Option String := none
  /-- Whether to follow the latest version. -/
  latest : Bool := false
  blockRef : Option String := none
  blockRange : Option BlockRange := none
  deriving DecidableEq, Repr

namespace View

/-- A text that is there and not empty. -/
def nonempty (text : Option String) : Option String := text.filter (· ≠ "")

/-- The pieces of the query. -/
def queryPieces (v : View) : List String :=
  ((nonempty v.version).map ("v=" ++ ·)).toList ++ if v.latest then ["l"] else []

/-- The query with its question mark, if there are parameters for it. -/
def query (v : View) : String :=
  if v.queryPieces = [] then "" else "?" ++ "&".intercalate v.queryPieces

/-- The fragment with its number sign. A range is written behind a block only. -/
def fragment (v : View) : String :=
  match nonempty v.blockRef with
  | some block => "#" ++ block ++ BlockRange.renderOptional v.blockRange
  | none => ""

/-- What stands behind the entity in a link. -/
def suffix (v : View) : String := v.query ++ v.fragment

end View

/-- The link with view parameters behind it. The block may come with a number sign of its own. -/
def appendView (link : String) (v : View) : String :=
  let bare (block : String) : String :=
    match block.toList with
    | '#' :: rest => String.ofList rest
    | _ => block
  link ++ { v with blockRef := v.blockRef.map bare }.suffix

end Hyperlink
