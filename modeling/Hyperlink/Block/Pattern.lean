import Hyperlink.Block
import Hyperlink.Fault

/-!
# Hyperlink.Block.Pattern — block references by the parts that a match names

A fragment is matched as a whole against the three forms of a reference. A match names the parts of the text that it
went through, and the reference is put together from them: the part of the id is promised to be there, all others may
be missing.

* `BlockRef.parts?`: the named parts of a text that has one of the forms.
* `BlockRef.read`: the reference of a fragment. What it gives is `BlockRef.parse?` of the fragment.
-/

namespace Hyperlink.BlockRef

/-- The parts of a text that a match names. -/
abbrev NamedParts := List (String × List Char)

/-- The parts of two numbers in brackets, given what follows the opening bracket. -/
def bracketParts? (cs : List Char) : Option NamedParts :=
  match Text.cutAt ':' cs with
  | none => none
  | some (start, rest) =>
    match Text.cutAt ']' rest with
    | some (stop, []) =>
      if (start ≠ [] ∧ start.all Char.isDigit) ∧ stop ≠ [] ∧ stop.all Char.isDigit then
        some [("start", start), ("end", stop)]
      else none
    | _ => none

/-- The parts of what follows the eight characters of a block id: nothing, a plus or two numbers in brackets. -/
def suffixParts? : List Char → Option NamedParts
  | [] => some []
  | ['+'] => some [("expanded", ['+'])]
  | '[' :: cs => bracketParts? cs
  | _ => none

/-- The parts of a text of one of the three forms. -/
def parts? (cs : List Char) : Option NamedParts :=
  if isId (cs.take idLength) then (suffixParts? (cs.drop idLength)).map (("block_id", cs.take idLength) :: ·)
  else none

/-- The reference to the block that the other named parts of a text form. Numbers of more than 32 bits form none, and
the text is kept whole. -/
def withParts (text id : String) (parts : NamedParts) : BlockRef :=
  if (parts.lookup "expanded").isSome then ⟨id, some (.expanded true)⟩
  else
    match parts.lookup "start", parts.lookup "end" with
    | some start, some stop =>
      match BlockRange.number? start, BlockRange.number? stop with
      | some start, some stop => ⟨id, some (.span start stop)⟩
      | _, _ => ⟨text, none⟩
    | _, _ => ⟨id, none⟩

/-- The reference that the named parts of a text form. -/
def ofParts (text : String) (parts : NamedParts) : Except Fault BlockRef := do
  let id ← Fault.partOf parts "block_id"
  return withParts text (String.ofList id) parts

/-- Reads the fragment of a link by the parts that a match names. -/
def read (text : String) : Except Fault (Option BlockRef) :=
  if text = "" then .ok none
  else
    match parts? text.toList with
    | none => .ok (some ⟨text, none⟩)
    | some parts => (ofParts text parts).map some

/-- Reads a fragment that may be missing. -/
def readOptional : Option String → Except Fault (Option BlockRef)
  | some text => read text
  | none => .ok none

end Hyperlink.BlockRef
