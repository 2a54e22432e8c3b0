import Hyperlink.Text.Hex

/-!
# Hyperlink.Text.Ranges — sets and maps of code points

A short set of characters is a list of closed ranges of code points, see `inRanges`. A long set or map is a
`CodeTable`, an array of rows in ascending order, which is searched by halving. Tables are written as lines of text:
the rows `lo-hi` or `lo` in hexadecimal digits, each with its value directly behind it, separated by blanks.
-/

namespace Hyperlink.Text

/-- A closed range of code points. -/
abbrev CodeRange := Nat × Nat

/-- Whether the code point of `c` lies in one of the ranges. -/
def inRanges (rs : List CodeRange) (c : Char) : Bool :=
  rs.any fun r => r.1 ≤ c.toNat && c.toNat ≤ r.2

/-- A range of code points with a value. -/
structure CodeRow where
  lo : Nat
  hi : Nat
  /-- What is written behind the range; nothing in a table that is a set. -/
  value : List Char
  deriving Inhabited, Repr

/-- Rows in ascending order. -/
abbrev CodeTable := Array CodeRow

/-- Reads a row: a range and the value behind it. -/
def CodeRow.ofChars (cs : List Char) : CodeRow :=
  let inside (c : Char) : Bool := isHexDigit c || c = '-'
  let range := cs.takeWhile inside
  let value := cs.dropWhile inside
  match range.splitOn '-' with
  | [lo, hi] => ⟨hexNumber lo, hexNumber hi, value⟩
  | _ => ⟨hexNumber range, hexNumber range, value⟩

namespace CodeTable

/-- The rows of a line. -/
def ofLine (line : String) : List CodeRow :=
  ((line.toList.splitOn ' ').filter (!·.isEmpty)).map CodeRow.ofChars

/-- The table that the lines write. -/
def ofLines (lines : List String) : CodeTable := (lines.flatMap ofLine).toArray

/-- Looks for the row that holds `n` among the rows from `first` up to but not including `stop`. -/
def search (t : CodeTable) (n first stop : Nat) : Option CodeRow :=
  if first < stop then
    let middle := first + (stop - first) / 2
    match t[middle]? with
    | none => none
    | some r =>
      if n < r.lo then search t n first middle
      else if r.hi < n then search t n (middle + 1) stop
      else some r
  else none
termination_by stop - first

/-- The row that holds the code point of `c`. -/
def find? (t : CodeTable) (c : Char) : Option CodeRow := search t c.toNat 0 t.size

/-- Whether a row holds the code point of `c`. -/
def holds (t : CodeTable) (c : Char) : Bool := (t.find? c).isSome

end CodeTable

end Hyperlink.Text
