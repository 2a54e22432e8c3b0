import Hyperlink.Text.Hex

/-!
# Hyperlink.Url.Ipv6 — addresses of eight pieces

An address is written as pieces of one to four hexadecimal digits with colons between them. The last two pieces may be
written as four decimal bytes with points between them. Once, `::` may stand for one or more pieces that are zero.

`render` writes the pieces without leading zeros and puts `::` for the first of the longest runs of zeros, if it has at
least two.
-/

namespace Hyperlink.Url.Ipv6

/-- The number of pieces of an address. -/
def pieceCount : Nat := 8

/-! ## Reading -/

/-- The piece that hexadecimal digits write. -/
def piece? (cs : List Char) : Option UInt16 :=
  if cs ≠ [] ∧ cs.length ≤ 4 ∧ cs.all Text.isHexDigit then some (UInt16.ofNat (Text.hexNumber cs)) else none

/-- The byte that decimal digits without a leading zero write. -/
def byte? (cs : List Char) : Option Nat :=
  let n := Nat.ofDigitChars 10 cs 0
  if cs ≠ [] ∧ cs.all Char.isDigit ∧ (cs.head? ≠ some '0' ∨ cs.length = 1) ∧ n < 256 then some n else none

/-- The two pieces that four bytes write. -/
def pair? (cs : List Char) : Option (List UInt16) := do
  match ← (cs.splitOn '.').mapM byte? with
  | [a, b, c, d] => some [UInt16.ofNat (256 * a + b), UInt16.ofNat (256 * c + d)]
  | _ => none

/-- The pieces that the last text between colons writes. -/
def lastPieces? (cs : List Char) : Option (List UInt16) :=
  if '.' ∈ cs then pair? cs else (piece? cs).map ([·])

/-- The pieces of a row of texts. Only the last one may have points. -/
def pieces? : List (List Char) → Option (List UInt16)
  | [] => some []
  | [cs] => lastPieces? cs
  | cs :: rest => do return (← piece? cs) :: (← pieces? rest)

/-- The pieces that a text without `::` writes; an empty text writes none. -/
def row? (cs : List Char) : Option (List UInt16) := if cs = [] then some [] else pieces? (cs.splitOn ':')

/-- The pieces in front of `::`, which are all hexadecimal. -/
def front? (cs : List Char) : Option (List UInt16) := if cs = [] then some [] else (cs.splitOn ':').mapM piece?

/-- The texts before and after the first `::`. -/
def cutDouble : List Char → Option (List Char × List Char)
  | ':' :: ':' :: cs => some ([], cs)
  | c :: cs => (cutDouble cs).map fun p => (c :: p.1, p.2)
  | [] => none

/-- The pieces of the address that a text writes. -/
def parse? (cs : List Char) : Option (List UInt16) :=
  match cutDouble cs with
  | none => do
    let pieces ← pieces? (cs.splitOn ':')
    if pieces.length = pieceCount then some pieces else none
  | some (before, after) => do
    let front ← front? before
    let back ← row? after
    if front.length + back.length < pieceCount then
      some (front ++ List.replicate (pieceCount - front.length - back.length) 0 ++ back)
    else none

/-! ## Writing -/

/-- The number of zeros at the start. -/
def leadingZeros (pieces : List UInt16) : Nat := (pieces.takeWhile (· = 0)).length

/-- The place and the length of the first of the longest runs of zeros, given the place of the first piece. -/
def longestRun (place : Nat) : List UInt16 → Nat × Nat
  | [] => (place, 0)
  | p :: ps =>
    let here := leadingZeros (p :: ps)
    let later := longestRun (place + 1) ps
    if later.2 ≤ here then (place, here) else later

/-- The pieces with colons between them. -/
def renderRow (pieces : List UInt16) : List Char := [':'].intercalate (pieces.map fun p => Text.hexDigits p.toNat)

/-- The text of an address. -/
def render (pieces : List UInt16) : List Char :=
  let (place, length) := longestRun 0 pieces
  if length < 2 then renderRow pieces
  else renderRow (pieces.take place) ++ [':', ':'] ++ renderRow (pieces.drop (place + length))

end Hyperlink.Url.Ipv6
