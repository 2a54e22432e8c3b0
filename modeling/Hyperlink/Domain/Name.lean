import Hyperlink.Domain.Label
import Hyperlink.Unicode.Mapping

/-!
# Hyperlink.Domain.Name — domain names in ASCII

`toAscii?` brings a domain name into the one form in which it is used: capitals and other forms of a character are
replaced, the text is composed, and each label that is not ASCII is written in Punycode. A label that is in Punycode
already has to stand for a valid label. Hyphens may stand anywhere.

Names and labels of plain ASCII may have any length. A label that is in Punycode already is refused if more than
`maxEncoded` characters stand behind its mark, and one that is still to be written in it if it has more than `maxPlain`
characters.

The result holds no character that separates the parts of a URL (`isForbidden`).
-/

namespace Hyperlink.Domain

open Unicode

/-- The replacement of a character. ASCII capitals become small, and no other ASCII character is replaced. -/
def replacement (c : Char) : List Char :=
  if isAscii c then [c.toLower] else (mapped? c).getD [c]

/-- Whether an ASCII character must not stand in a domain name. -/
def isForbidden (c : Char) : Bool :=
  c.toNat ≤ 0x20 || c.toNat = 0x7f || "%#/:<>?@[\\]^|".toList.contains c

/-- The labels of a name after the replacement of its characters. -/
def labels (name : List Char) : List (List Char) := (compose (name.flatMap replacement)).splitOn '.'

/-- The label in ASCII, if what it stands for is valid. One that is in Punycode already is kept. -/
def checkedLabel? (twoDirections : Bool) (label : List Char) : Option (List Char) := do
  let plain ← plainLabel? label
  if ¬ isValidLabel twoDirections plain then none
  if punycodeMark.isPrefixOf label then some label else asciiLabel? plain

/-- Whether one of the labels holds a character that runs from right to left. -/
def hasTwoDirections (labels : List (List Char)) : Bool :=
  labels.any fun label => ((plainLabel? label).getD []).any runsRightToLeft

/-- The name in ASCII. -/
def toAscii? (name : List Char) : Option (List Char) := do
  let labels := labels name
  let checked ← labels.mapM (checkedLabel? (hasTwoDirections labels))
  let result := ['.'].intercalate checked
  if result.any isForbidden then none else some result

end Hyperlink.Domain
