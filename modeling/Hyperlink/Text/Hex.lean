/-!
# Hyperlink.Text.Hex — hexadecimal digits

`hexValue?` reads a digit of either case, `hexNumber` a row of digits.
-/

namespace Hyperlink.Text

/-- The value of a hexadecimal digit of either case. -/
def hexValue? (c : Char) : Option Nat :=
  if '0' ≤ c ∧ c ≤ '9' then some (c.toNat - '0'.toNat)
  else if 'a' ≤ c ∧ c ≤ 'f' then some (c.toNat - 'a'.toNat + 10)
  else if 'A' ≤ c ∧ c ≤ 'F' then some (c.toNat - 'A'.toNat + 10)
  else none

/-- Whether a character is a hexadecimal digit. -/
def isHexDigit (c : Char) : Bool := (hexValue? c).isSome

/-- The number written by hexadecimal digits; other characters are passed over. -/
def hexNumber (cs : List Char) : Nat := (cs.filterMap hexValue?).foldl (fun n d => 16 * n + d) 0

/-- The hexadecimal digits of a number in lower case. -/
def hexDigits (n : Nat) : List Char := Nat.toDigits 16 n

/-- Two hexadecimal digits of a byte in upper case. -/
def hexByte (b : UInt8) : List Char :=
  [Nat.digitChar (b.toNat / 16), Nat.digitChar (b.toNat % 16)].map Char.toUpper

end Hyperlink.Text
