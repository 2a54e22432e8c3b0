import Hyperlink.Text.Cut
import Hyperlink.Url.Percent

/-!
# Hyperlink.Url.Path — paths of URLs

The path of a URL is cut at slashes and backslashes. A segment of one point is left out and one of two points takes
away the segment before it, also if the points are percent-encoded; a path that ends in such a segment ends in a slash.
A segment that looks like the letter of a drive is not taken away.
-/

namespace Hyperlink.Url

/-- Whether a character separates the segments of a path. -/
def isSlash (c : Char) : Bool := c = '/' || c = '\\'

/-- The parts of a text between slashes. -/
def cutSlashes (cs : List Char) : List (List Char) := cs.splitOnP isSlash

/-- The text with percent-encoded points read back. -/
def plainPoints : List Char → List Char
  | '%' :: '2' :: 'e' :: cs | '%' :: '2' :: 'E' :: cs => '.' :: plainPoints cs
  | c :: cs => c :: plainPoints cs
  | [] => []

/-- Whether a segment stands for the path so far. -/
def isHere (segment : List Char) : Bool := plainPoints segment = ['.']

/-- Whether a segment stands for the path without its last segment. -/
def isUp (segment : List Char) : Bool := plainPoints segment = ['.', '.']

/-- Whether a segment looks like the letter of a drive. -/
def isDrive : List Char → Bool
  | [c, d] => c.isAlpha && (d = ':' || d = '|')
  | _ => false

/-- The segments so far without the last one, in reverse. -/
def up : List (List Char) → List (List Char)
  | [] => []
  | s :: before => if isDrive s then s :: before else before

/-- The segments of a path in normal form. `before` holds those so far, in reverse. -/
def resolve (before : List (List Char)) : List (List Char) → List (List Char)
  | [] => before.reverse
  | s :: rest =>
    let ending := if rest = [] then [[]] else []
    if isUp s then resolve (ending ++ up before) rest
    else if isHere s then resolve (ending ++ before) rest
    else resolve (percentEncode pathSet s :: before) rest

/-- The segments of the path that a text writes, which is empty or begins with a slash. -/
def pathOf (cs : List Char) : List (List Char) := resolve [] (cutSlashes (cs.drop 1))

/-- The text of a path. -/
def renderPath (path : List (List Char)) : List Char := path.flatMap ('/' :: ·)

end Hyperlink.Url
