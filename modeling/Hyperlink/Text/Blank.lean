import Hyperlink.Text.Cut
import Hyperlink.Text.Ranges

/-!
# Hyperlink.Text.Blank — blank characters

A character is blank if Unicode gives it the property White_Space (25 code points). `trim` takes the blank
characters off both ends of a text.
-/

namespace Hyperlink.Text

/-- The code points with the property White_Space. -/
def blankRanges : List CodeRange :=
  [(0x09, 0x0d), (0x20, 0x20), (0x85, 0x85), (0xa0, 0xa0), (0x1680, 0x1680), (0x2000, 0x200a), (0x2028, 0x2029),
   (0x202f, 0x202f), (0x205f, 0x205f), (0x3000, 0x3000)]

/-- Whether `c` is a White_Space character. -/
def isBlank (c : Char) : Bool := inRanges blankRanges c

/-- The characters without the blank ones at either end. -/
def trim (cs : List Char) : List Char := stripEnds isBlank cs

@[simp] theorem trim_nil : trim [] = [] := rfl

/-- There are 25 blank characters. -/
example : blankRanges.foldl (fun n r => n + (r.2 + 1 - r.1)) 0 = 25 := rfl

end Hyperlink.Text
