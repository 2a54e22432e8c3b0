import Hyperlink.Text.Blank

/-!
# Hyperlink.Block — references to blocks

The fragment of a link refers to a block: `id`, `id+` (the block with what belongs to it) or `id[2:5]` (a range of
its text), where `id` is exactly eight characters none of which is blank. A fragment of any other form is kept whole
as the id of the block.

* `BlockRange`: what qualifies the block; `BlockRange.render` writes it.
* `BlockRef.parse?`: reads a fragment; `BlockRef.render` writes one.
* `BlockRef.ofLink?`: the reference behind the first `#` of any link.
-/

namespace Hyperlink

/-- The part of a block reference that qualifies the block. -/
inductive BlockRange
  /-- The part of the text from `start` to `stop`. -/
  | span (start stop : UInt32)
  /-- The block with what belongs to it, or explicitly without. -/
  | expanded (on : Bool)
  deriving DecidableEq, Repr

namespace BlockRange

/-- The decimal digits of a number. -/
def digits (n : UInt32) : List Char := Nat.toDigits 10 n.toNat

/-- The suffix behind a block id. A block that is explicitly not expanded has none. -/
def suffix : BlockRange → List Char
  | span start stop => '[' :: digits start ++ ':' :: digits stop ++ [']']
  | expanded true => ['+']
  | expanded false => []

/-- The text of the suffix behind a block id. -/
def render (r : BlockRange) : String := String.ofList r.suffix

/-- The text of the suffix for a range that may be missing. -/
def renderOptional : Option BlockRange → String
  | some r => r.render
  | none => ""

/-- The number that decimal digits write, if there are digits and the number has at most 32 bits. -/
def number? (cs : List Char) : Option UInt32 :=
  if cs = [] ∨ ¬ cs.all Char.isDigit then none
  else
    let n := Nat.ofDigitChars 10 cs 0
    if n < UInt32.size then some (UInt32.ofNat n) else none

/-- The range that a suffix `[start:stop]` writes, given what follows the opening bracket. -/
def span? (cs : List Char) : Option BlockRange :=
  match Text.cutAt ':' cs with
  | none => none
  | some (start, rest) =>
    match Text.cutAt ']' rest with
    | some (stop, []) => do return span (← number? start) (← number? stop)
    | _ => none

/-- Reads what follows the eight characters of a block id: nothing, `+` or a range. -/
def readSuffix : List Char → Option (Option BlockRange)
  | [] => some none
  | ['+'] => some (some (expanded true))
  | '[' :: cs => (span? cs).map some
  | _ => none

end BlockRange

/-- A reference to a block. -/
structure BlockRef where
  blockId : String
  range : Option BlockRange
  deriving DecidableEq, Repr

namespace BlockRef

/-- The number of characters of a block id. -/
def idLength : Nat := 8

/-- Whether the characters form a block id: exactly eight, none of them blank. -/
def isId (cs : List Char) : Bool := cs.length = idLength && cs.all (!Text.isBlank ·)

/-- Reads the fragment of a link. Text that is no reference is kept whole as the block id; an empty text is none. -/
def parse? (text : String) : Option BlockRef :=
  let cs := text.toList
  if cs = [] then none
  else if isId (cs.take idLength) then
    match BlockRange.readSuffix (cs.drop idLength) with
    | some range => some ⟨String.ofList (cs.take idLength), range⟩
    | none => some ⟨text, none⟩
  else some ⟨text, none⟩

/-- Writes the fragment of a link. -/
def render (b : BlockRef) : String := b.blockId ++ BlockRange.renderOptional b.range

/-- The reference in the text behind the first `#` of a link. -/
def ofLink? (link : String) : Option BlockRef :=
  match Text.cutAt '#' link.toList with
  | some (_, fragment) => parse? (String.ofList fragment)
  | none => none

end BlockRef

end Hyperlink
