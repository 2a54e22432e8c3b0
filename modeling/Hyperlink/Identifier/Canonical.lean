import Hyperlink.Identifier.Unpack

/-!
# Hyperlink.Identifier.Canonical — links in their compact form

* `normalizeLink`: the compact form of a link that was pasted or typed. Compact links are kept as they are; links on
  the gateway keep type, uid, version and block; other texts have none.
* `linkWithVersion`: a link at another version and block.
-/

namespace Hyperlink

/-- Whether the text begins with the text of the gateway. -/
def isOnGateway (text gateway : String) : Bool := gateway.toList.isPrefixOf text.toList

/-- The compact form of a link. -/
def normalizeLink (text gateway : String) : Except Fault (Option String) :=
  if Scheme.isHypermediaLink text then .ok (some text)
  else if ¬ isOnGateway text gateway then .ok none
  else do
    match ← Identifier.unpack text with
    | none => return none
    | some x =>
      let y ← Identifier.build x.entityType x.uid { view := { x.view with latest := false } }
      return some y.pack

/-- The compact link at another version and block. A missing or empty link, or a text that is none, has none. -/
def linkWithVersion (link version blockRef : Option String) (range : Option BlockRange) :
    Except Fault (Option String) :=
  match View.nonempty link with
  | none => .ok none
  | some text => do
    match ← Identifier.unpack text with
    | none => return none
    | some x =>
      let y ← x.withVersion version blockRef range
      return some y.pack

end Hyperlink
