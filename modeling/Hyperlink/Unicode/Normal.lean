import Hyperlink.Unicode.CombiningClass
import Hyperlink.Unicode.Composite

/-!
# Hyperlink.Unicode.Normal — the composed normal form

`compose` brings a text into Normalization Form C: characters are taken apart, combining characters behind a base are
put in the order of their classes, and what can be put together again is. The tables hold the characters of domain
names, and the function is meant for texts of such characters.

No character below U+00C0 is made up of others, and none below U+0300 combines with the one before it.
-/

namespace Hyperlink.Unicode

/-! ## The syllables of Hangul -/

/-- The first syllable. -/
def syllableBase : Nat := 0xac00
/-- The first leading letter. -/
def leadBase : Nat := 0x1100
/-- The first vowel letter. -/
def vowelBase : Nat := 0x1161
/-- The place before the first trailing letter, as these count from one. -/
def trailBase : Nat := 0x11a7
/-- The number of leading letters. -/
def leadCount : Nat := 19
/-- The number of vowel letters. -/
def vowelCount : Nat := 21
/-- The number of trailing letters, and one for none. -/
def trailCount : Nat := 28

/-- The parts of a syllable: a shorter syllable and a trailing letter, or a leading letter and a vowel. -/
def syllableParts? (c : Char) : Option (Char × Char) :=
  let n := c.toNat - syllableBase
  if c.toNat < syllableBase ∨ leadCount * vowelCount * trailCount ≤ n then none
  else if n % trailCount ≠ 0 then some (Char.ofNat (c.toNat - n % trailCount), Char.ofNat (trailBase + n % trailCount))
  else
    let pair := n / trailCount
    some (Char.ofNat (leadBase + pair / vowelCount), Char.ofNat (vowelBase + pair % vowelCount))

/-- The syllable of two parts. -/
def syllableOf? (a b : Char) : Option Char :=
  let lead := a.toNat - leadBase
  let vowel := b.toNat - vowelBase
  let syllable := a.toNat - syllableBase
  let trail := b.toNat - trailBase
  if leadBase ≤ a.toNat ∧ lead < leadCount ∧ vowelBase ≤ b.toNat ∧ vowel < vowelCount then
    some (Char.ofNat (syllableBase + (lead * vowelCount + vowel) * trailCount))
  else if syllableBase ≤ a.toNat ∧ syllable < leadCount * vowelCount * trailCount ∧ syllable % trailCount = 0 ∧
      trailBase < b.toNat ∧ trail < trailCount then
    some (Char.ofNat (a.toNat + trail))
  else none

/-! ## Taking apart -/

/-- The first character that is made up of others. -/
def firstComposite : Nat := 0xc0

/-- The first character that combines with the one before it. -/
def firstCombining : Nat := 0x300

/-- The two parts of a character. -/
def parts? (c : Char) : Option (Char × Char) :=
  if c.toNat < firstComposite then none else (tableParts? c).or (syllableParts? c)

/-- The character of two parts. -/
def composite? (a b : Char) : Option Char :=
  if b.toNat < firstCombining then none else (tableComposite? a b).or (syllableOf? a b)

/-- The class of a character. -/
def classOf (c : Char) : Nat := if c.toNat < firstCombining then 0 else combiningClass c

/-- Takes a character apart down to the given depth. -/
def takeApart : Nat → Char → List Char
  | 0, c => [c]
  | depth + 1, c =>
    match parts? c with
    | some (a, b) => takeApart depth a ++ takeApart depth b
    | none => [c]

/-- The depth to which characters are made up of others. -/
def partsDepth : Nat := 4

/-- The text with all characters taken apart. -/
def decompose (cs : List Char) : List Char := cs.flatMap (takeApart partsDepth)

/-! ## Ordering and putting together -/

/-- Puts a character in its place at the end of a text, which is given in reverse: combining characters of a higher
class stay behind it. -/
def insertByClass (c : Char) : List Char → List Char
  | [] => [c]
  | d :: before =>
    if classOf c ≠ 0 ∧ classOf c < classOf d then d :: insertByClass c before else c :: d :: before

/-- The text with the combining characters in the order of their classes. -/
def order (cs : List Char) : List Char := (cs.foldl (fun before c => insertByClass c before) []).reverse

/-- Puts together the characters of an ordered text. `base` is the last character that others can join, `marks` are
those between it and the rest, in reverse. -/
def combine (base : Char) (marks : List Char) : List Char → List Char
  | [] => base :: marks.reverse
  | c :: rest =>
    let open? : Bool :=
      match marks with
      | [] => true
      | m :: _ => classOf m < classOf c
    match if open? then composite? base c else none with
    | some joined => combine joined marks rest
    | none =>
      if classOf c = 0 then base :: marks.reverse ++ combine c [] rest
      else combine base (c :: marks) rest

/-- The text up to its first character of class zero, and the rest put together. -/
def recompose : List Char → List Char
  | [] => []
  | c :: rest => if classOf c = 0 then combine c [] rest else c :: recompose rest

/-- The text in composed normal form. -/
def compose (cs : List Char) : List Char := recompose (order (decompose cs))

end Hyperlink.Unicode
