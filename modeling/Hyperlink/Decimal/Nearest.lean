/-!
# Hyperlink.Decimal.Nearest — the double nearest to a decimal number

A finite double is `significand · 2 ^ exponent` with at most 53 bits in the significand and an exponent from -1074 to
971. `Double.ofDecimal?` finds the double nearest to `m · 10 ^ e`, of two equally near ones the one with the even
significand, by exact arithmetic on natural numbers. Numbers that round to infinity have none.
-/

namespace Hyperlink

/-- A double that is not negative: `significand · 2 ^ exponent`. -/
structure Double where
  significand : Nat
  exponent : Int
  deriving DecidableEq, Repr

namespace Double

/-- The bits of a significand. -/
def precision : Nat := 53

/-- The least exponent. -/
def minExponent : Int := -1074

/-- The greatest exponent. -/
def maxExponent : Int := 971

/-- The natural number nearest to `num / den`; a half goes to the even neighbour. -/
def roundRatio (num den : Nat) : Nat :=
  let n := num / den
  let r := 2 * (num % den)
  if r < den then n
  else if den < r then n + 1
  else n + n % 2

/-- `n · base ^ e`; an exponent below zero counts as zero. -/
def shift (base n : Nat) (e : Int) : Nat := n * Nat.pow base e.toNat

/-- The least significand that uses all bits. -/
def leastNormal : Nat := Nat.pow 2 (precision - 1)

/-- The double nearest to the positive number `num / den`. -/
def ofRatio? (num den : Nat) : Option Double :=
  let guess : Int := num.log2 - den.log2 - (precision - 1 : Nat)
  let scaled (q : Int) : Nat × Nat := (shift 2 num (-q), shift 2 den q)
  let fits := leastNormal * (scaled guess).2 ≤ (scaled guess).1
  let q := max minExponent (if fits then guess else guess - 1)
  let s := roundRatio (scaled q).1 (scaled q).2
  let d : Double := if s = 2 * leastNormal then ⟨leastNormal, q + 1⟩ else ⟨s, q⟩
  if maxExponent < d.exponent then none else some d

/-- The number of decimal digits of a number. -/
def digitCount (n : Nat) : Nat := (Nat.toDigits 10 n).length

/-- The double nearest to `m · 10 ^ e`. Outside of what doubles reach the size decides alone. -/
def ofDecimal? (m : Nat) (e : Int) : Option Double :=
  let size : Int := digitCount m + e
  if m = 0 ∨ size < -330 then some ⟨0, minExponent⟩
  else if 310 < size then none
  else ofRatio? (shift 10 m e) (shift 10 1 (-e))

end Double

end Hyperlink
