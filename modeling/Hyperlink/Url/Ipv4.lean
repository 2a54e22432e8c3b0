import Hyperlink.Text.Hex

/-!
# Hyperlink.Url.Ipv4 — addresses of four bytes

A host whose last part is a number is an address and nothing else. Numbers are decimal, octal behind `0` or
hexadecimal behind `0x`. An address has up to four parts; the last one fills all bytes that the others leave.
-/

namespace Hyperlink.Url.Ipv4

/-- The number that a part writes. -/
def number? (part : List Char) : Option Nat :=
  match part with
  | [] => none
  | '0' :: 'x' :: digits | '0' :: 'X' :: digits =>
    if digits.all Text.isHexDigit then some (Text.hexNumber digits) else none
  | '0' :: d :: digits =>
    if (d :: digits).all (fun c => '0' ≤ c && c ≤ '7') then some (Nat.ofDigitChars 8 (d :: digits) 0) else none
  | digits => if digits.all Char.isDigit then some (Nat.ofDigitChars 10 digits 0) else none

/-- The parts of a host without an empty one at the end. -/
def parts (host : List Char) : List (List Char) :=
  let ps := host.splitOn '.'
  if ps.getLast? = some [] then ps.dropLast else ps

/-- Whether the last part of a host is a number, or looks like one. -/
def endsInNumber (host : List Char) : Bool :=
  match (parts host).getLast? with
  | none => false
  | some part => (part ≠ [] && part.all Char.isDigit) || (number? part).isSome

/-- The number that bytes form, the highest one first. -/
def ofBytes (bs : List Nat) : Nat := bs.foldl (fun n b => 256 * n + b) 0

/-- The address of the numbers before the last one and the last one. -/
def ofNumbers? (front : List Nat) (last : Nat) : Option UInt32 :=
  if 3 < front.length ∨ ¬ front.all (· < 256) ∨ Nat.pow 256 (4 - front.length) ≤ last then none
  else some (UInt32.ofNat (ofBytes front * Nat.pow 256 (4 - front.length) + last))

/-- The address that a host writes. -/
def parse? (host : List Char) : Option UInt32 := do
  let numbers ← (parts host).mapM number?
  ofNumbers? numbers.dropLast (← numbers.getLast?)

/-- The four bytes of an address. -/
def bytes (address : UInt32) : List Nat :=
  let n := address.toNat
  [n / 0x1000000, n / 0x10000 % 256, n / 0x100 % 256, n % 256]

/-- The text of an address. -/
def render (address : UInt32) : List Char := ['.'].intercalate ((bytes address).map (Nat.toDigits 10))

end Hyperlink.Url.Ipv4
