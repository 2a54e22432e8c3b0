import Hyperlink.Text.Blank

/-!
# Hyperlink.Scheme — the schemes of links

A scheme is recognized without regard to the case of its letters and to blank characters around it. The letters of
the known schemes are ASCII, and no other letter has one of them as its lower case form, so `Char.toLower` decides.
-/

namespace Hyperlink

/-- What the scheme of a text says about it. -/
inductive Scheme
  /-- `hm`, the scheme of compact links. -/
  | hypermedia
  | http
  | https
  /-- Any other text. -/
  | other
  deriving DecidableEq, Repr

namespace Scheme

/-- The scheme of compact links. -/
def hypermediaText : String := "hm"

/-- The scheme that a text stands for. -/
def ofText (text : String) : Scheme :=
  let plain := String.ofList ((Text.trim text.toList).map Char.toLower)
  if plain = hypermediaText then hypermedia
  else if plain = "http" then http
  else if plain = "https" then https
  else other

/-- Whether the scheme is one of the web. -/
def isWeb : Scheme → Bool
  | http | https => true
  | hypermedia | other => false

/-- The scheme text of a link: what stands before the first `://`. -/
def textOf? (link : String) : Option String :=
  (Text.cut [':', '/', '/'] link.toList).map fun p => String.ofList p.1

/-- Whether the link has the scheme of compact links. -/
def isHypermediaLink (link : String) : Bool :=
  match textOf? link with
  | some text => ofText text = hypermedia
  | none => false

end Scheme

end Hyperlink
