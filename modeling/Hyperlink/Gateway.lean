import Hyperlink.Error
import Hyperlink.Text.Blank
import Hyperlink.Url.Basic

/-!
# Hyperlink.Gateway — origins of gateways

Links on a gateway are told by the text they begin with, so the text of a gateway has to look exactly like the start of
the URLs that are written for it. `normalizeGateway` reads a URL with blank characters around it and writes its normal
form without slashes at the end. Only URLs of the web are accepted.
-/

namespace Hyperlink

/-- The schemes of the web. -/
def webSchemes : List (List Char) := ["http".toList, "https".toList]

/-- The text without slashes at its end. -/
def dropTrailingSlashes (cs : List Char) : List Char := (cs.reverse.dropWhile (· = '/')).reverse

/-- The error for a text that is no URL. -/
def UrlError.toError (e : UrlError) : Error := .config ("Invalid URL: " ++ e.describe)

/-- The gateway that a text writes, in normal form. -/
def normalizeGateway (raw : String) : Except Error String :=
  match Url.parse (Text.trim raw.toList) with
  | .error e => .error e.toError
  | .ok (.special u) =>
    if u.scheme ∈ webSchemes then .ok (String.ofList (dropTrailingSlashes u.render)) else .error (.wrongScheme raw)
  | .ok (.other _) => .error (.wrongScheme raw)

end Hyperlink
