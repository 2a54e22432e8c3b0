import Hyperlink.Identifier.Basic

/-!
# Hyperlink.Identifier.Web — identifiers as URLs of the web

* `webUrl`: `<host>/hm/[<type>/]<uid>[/<path>]…`, on the public gateway, on another origin or without a host.
* `shareUrl`: the web URL on the host that the identifier was read from.
* `siteUrl`: a URL on a site that serves documents at their plain path.
-/

namespace Hyperlink

/-- The origin of the public gateway. -/
def publicGateway : String := "https://hyper.media"

/-- The path segment that marks a hypermedia resource in a URL of the web. -/
def webMarker : String := "hm"

/-- Where a URL of the web points to. -/
inductive WebHost
  /-- The public gateway. -/
  | gateway
  /-- No host, which gives a URL of the path alone. -/
  | relative
  /-- The given text as it stands. -/
  | origin (text : String)
  deriving DecidableEq, Repr

namespace WebHost

/-- The host for an optional text: none is the public gateway, and an empty one no host. -/
def ofText? : Option String → WebHost
  | none => gateway
  | some text => if text = "" then relative else origin text

/-- The text in front of the path. -/
def text : WebHost → String
  | gateway => publicGateway
  | relative => ""
  | origin t => t

end WebHost

namespace Identifier

/-- The URL of the identifier on a host. -/
def webUrl (x : Identifier) (host : WebHost) : String :=
  host.text ++ "/" ++ webMarker ++ "/" ++ entityText x.entityType x.uid ++ pathText x.path ++ x.view.suffix

/-- Whether a text holds `://`. -/
def namesScheme (text : String) : Bool := (Text.cut [':', '/', '/'] text.toList).isSome

/-- The URL of the identifier on the host it was read from. An identifier without a host gives a URL of the path
alone. Links of the web record their host without the scheme, so the recorded scheme is put in front of it. -/
def shareUrl (x : Identifier) : String :=
  match x.hostname with
  | none => x.webUrl .relative
  | some hostname =>
    match x.scheme with
    | some scheme =>
      if (Scheme.ofText scheme).isWeb ∧ ¬ namesScheme hostname then x.webUrl (.origin (scheme ++ "://" ++ hostname))
      else x.webUrl (.origin hostname)
    | none => x.webUrl (.origin hostname)

end Identifier

/-- A URL on a site that serves documents at their plain path. -/
def siteUrl (hostname : String) (path : Option (List String)) (view : View) : String :=
  hostname ++ "/" ++ "/".intercalate (path.getD []) ++ view.suffix

end Hyperlink
