import Hyperlink.Domain.Punycode
import Hyperlink.Unicode.Bidi
import Hyperlink.Unicode.Joining
import Hyperlink.Unicode.Mark
import Hyperlink.Unicode.Normal
import Hyperlink.Unicode.Valid

/-!
# Hyperlink.Domain.Label — the labels of a domain name

A label is valid if it is in composed normal form, does not begin with a combining mark, holds only characters that
domain names may have, and joins and runs as its letters do:

* `joinersFit`: a joiner stands behind a virama, and a non-joiner there or between letters that would join.
* `directionFits`: in a name with letters that run from right to left, each label begins and ends with a character of
  one direction and holds none of the other.
-/

namespace Hyperlink.Domain

open Unicode

/-! ## Joiners -/

/-- The character that keeps letters from joining. -/
def nonJoiner : Char := '\u200c'

/-- The character that makes letters join. -/
def joiner : Char := '\u200d'

/-- The combining class of a virama. -/
def viramaClass : Nat := 9

/-- The joining type of the first character that is not passed over. -/
def joiningOf (cs : List Char) : JoiningType :=
  match cs.dropWhile (joiningType · = .transparent) with
  | c :: _ => joiningType c
  | [] => .none

/-- Whether a joiner may stand between the characters before it, in reverse, and those behind it. -/
def joinerFits (c : Char) (before after : List Char) : Bool :=
  let behindVirama :=
    match before with
    | b :: _ => classOf b = viramaClass
    | [] => false
  let joinsBefore := joiningOf before = .dual || joiningOf before = .left
  let joinsAfter := joiningOf after = .dual || joiningOf after = .right
  behindVirama || (c = nonJoiner && joinsBefore && joinsAfter)

/-- Whether all joiners are in place, given the characters before in reverse. -/
def joinersFit (before : List Char) : List Char → Bool
  | [] => true
  | c :: after =>
    ((c ≠ nonJoiner && c ≠ joiner) || joinerFits c before after) && joinersFit (c :: before) after

/-! ## Direction -/

/-- No character below this code point runs from right to left. -/
def firstRightToLeft : Nat := 0x590

/-- Whether a character makes a domain name run in two directions. -/
def runsRightToLeft (c : Char) : Bool :=
  firstRightToLeft ≤ c.toNat &&
    match bidiClass c with
    | .rightToLeft | .arabicLetter | .arabicNumber => true
    | _ => false

/-- The classes that labels of either direction may hold. -/
def isShared : BidiClass → Bool
  | .europeanNumber | .europeanSeparator | .commonSeparator | .europeanTerminator | .otherNeutral
  | .boundaryNeutral | .nonspacingMark => true
  | _ => false

/-- Whether the classes of a label fit the direction of its first character. -/
def directionFits (classes : List BidiClass) : Bool :=
  let last := (classes.reverse.dropWhile (· = .nonspacingMark)).head?
  match classes.head? with
  | none => true
  | some .leftToRight =>
    classes.all (fun c => c = .leftToRight || isShared c) &&
      (last = some .leftToRight || last = some .europeanNumber)
  | some .rightToLeft | some .arabicLetter =>
    classes.all (fun c => c = .rightToLeft || c = .arabicLetter || c = .arabicNumber || isShared c) &&
      (last = some .rightToLeft || last = some .arabicLetter || last = some .europeanNumber ||
        last = some .arabicNumber) &&
      !(classes.contains .europeanNumber && classes.contains .arabicNumber)
  | some _ => false

/-! ## Labels -/

/-- Whether a character is one of ASCII. -/
def isAscii (c : Char) : Bool := c.toNat < Punycode.firstCode

/-- Whether a character may stand in a label. Of ASCII all but the capitals may; those that no name may hold are refused
where the labels are joined. -/
def isLabelChar (c : Char) : Bool := (isAscii c && c.toLower = c) || (!isAscii c && isValid c)

/-- Whether a character begins a label wrongly. -/
def isLeadingMark (c : Char) : Bool := !isAscii c && isMark c

/-- Whether a label is valid in a name that runs in two directions or not. -/
def isValidLabel (twoDirections : Bool) (label : List Char) : Bool :=
  compose label = label && label.all isLabelChar && !(label.head?.map isLeadingMark).getD false &&
    joinersFit [] label && (!twoDirections || directionFits (label.map bidiClass))

/-- What stands in front of a label that is written in Punycode. -/
def punycodeMark : List Char := ['x', 'n', '-', '-']

/-- The greatest number of characters behind the mark that are read as Punycode. Labels of hosts have far fewer. -/
def maxEncoded : Nat := 2000

/-- The greatest number of characters of a label that is written in Punycode. -/
def maxPlain : Nat := 1000

/-- The characters that a label stands for. What is read from Punycode has to hold a character that is not ASCII, and
must not begin with the mark of Punycode again. -/
def plainLabel? (label : List Char) : Option (List Char) :=
  match punycodeMark.isPrefixOf? label with
  | none => some label
  | some encoded =>
    if maxEncoded < encoded.length then none
    else
      match Punycode.decode? encoded with
      | none => none
      | some plain => if plain.all isAscii || punycodeMark.isPrefixOf plain then none else some plain

/-- The label in ASCII characters. One that is too long to be written in Punycode has none. -/
def asciiLabel? (plain : List Char) : Option (List Char) :=
  if plain.all isAscii then some plain
  else if maxPlain < plain.length then none
  else (Punycode.encode? plain).map (punycodeMark ++ ·)

end Hyperlink.Domain
