import Hyperlink.Dictionary
import Hyperlink.Text.Cut

/-!
# Hyperlink.Locator — texts of the form `scheme://path?query#fragment`

A `Locator` holds the parts of such a text exactly as they stand between the separators: nothing is decoded, and
nothing is known about hypermedia links. The text is cut at the first `://`, what follows at the first `#`, and what
stands before that at the first `?`. So a `?` behind a `#` belongs to the fragment.

* `Locator.parse?`: the parts of a text, if it holds `://` with something behind it.
* `segment?`, `hasKey`, `value?`: questions about a path segment and about a key of the query.
-/

namespace Hyperlink

/-- The parts of a text `scheme://path?query#fragment`. -/
structure Locator where
  /-- The text before `://`. -/
  scheme : String
  /-- The parts of the path between its slashes. Empty parts count. -/
  path : List String
  /-- The pairs of the query in the order of the text. A key without `=` has the empty value. -/
  query : List (String × String)
  /-- The text behind `#`. -/
  fragment : Option String
  deriving DecidableEq, Repr

namespace Locator

/-- The key and the value of one piece of a query, which are cut at the first `=`. -/
def keyValue (piece : List Char) : String × String :=
  match Text.cutAt '=' piece with
  | some (key, value) => (String.ofList key, String.ofList value)
  | none => (String.ofList piece, "")

/-- The pairs of a query text. Pieces that are empty do not count. -/
def queryPairs (text : List Char) : List (String × String) :=
  ((text.splitOn '&').filter (· ≠ [])).map keyValue

/-- The parts before and after the first `sep`; without one all of the text stands before it. -/
def cutOptional (sep : Char) (text : List Char) : List Char × Option (List Char) :=
  match Text.cutAt sep text with
  | some (before, after) => (before, some after)
  | none => (text, none)

/-- The parts of what stands behind `://`. -/
def ofRest (scheme : List Char) (rest : List Char) : Locator :=
  let (front, fragment) := cutOptional '#' rest
  let (path, query) := cutOptional '?' front
  { scheme := String.ofList scheme
    path := (path.splitOn '/').map String.ofList
    query := queryPairs (query.getD [])
    fragment := fragment.map String.ofList }

/-- The parts of a text. A text without `://`, or with nothing behind it, has none. -/
def parse? (text : String) : Option Locator :=
  match Text.cut [':', '/', '/'] text.toList with
  | some (scheme, rest) => if rest = [] then none else some (ofRest scheme rest)
  | none => none

/-- The segment of the path with index `i`. -/
def segment? (l : Locator) (i : Nat) : Option String := l.path[i]?

/-- Whether the query has the key. -/
def hasKey (l : Locator) (key : String) : Bool := l.query.any (·.1 = key)

/-- The value of the last pair with the key; an empty value counts as none. -/
def value? (l : Locator) (key : String) : Option String :=
  match l.query.findRev? (·.1 = key) with
  | some (_, value) => if value = "" then none else some value
  | none => none

/-- One pair per key of the query in ascending order of the keys; the last pair of a key wins. -/
def entries (l : Locator) : List (String × String) := Dictionary.ofPairs l.query

end Locator

end Hyperlink
