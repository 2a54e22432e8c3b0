import Hyperlink.Decimal.Nearest

/-!
# Hyperlink.Decimal.Shortest — the shortest decimal that reads back

`Double.shortest` gives the decimal number with the fewest digits that has the given double as its nearest one, and of
several such the one closest to the double. `Double.render` writes it: positional with up to sixteen digits before the
point or up to four zeros behind it, else with an exponent.
-/

namespace Hyperlink.Double

/-- A decimal number `digits · 10 ^ exponent`. -/
structure Decimal where
  digits : Nat
  exponent : Int
  deriving DecidableEq, Repr

/-- Compares `a · 10 ^ p` with `b · 2 ^ q`. -/
def compareDecimal (a : Nat) (p : Int) (b : Nat) (q : Int) : Ordering :=
  compare (shift 2 (shift 10 a p) (-q)) (shift 10 (shift 2 b q) (-p))

/-- Whether `a · 10 ^ p` rounds to the double. The gap below a power of two is half as wide as the one above. -/
def roundsTo (d : Double) (a : Nat) (p : Int) : Bool :=
  let narrow := d.significand = leastNormal ∧ minExponent < d.exponent
  let low := 4 * d.significand - if narrow then 1 else 2
  let high := 4 * d.significand + 2
  let fromLow := compareDecimal a p low (d.exponent - 2)
  let fromHigh := compareDecimal a p high (d.exponent - 2)
  if d.significand % 2 = 0 then fromLow ≠ .lt && fromHigh ≠ .gt else fromLow = .gt && fromHigh = .lt

/-- The exponent of the first decimal digit of a positive double. -/
def leadingExponent (d : Double) : Int :=
  let num := shift 2 d.significand d.exponent
  let den := shift 2 1 (-d.exponent)
  if den ≤ num then digitCount (num / den) - 1
  else -digitCount ((den + num - 1) / num - 1)

/-- Of the two neighbours of the double on the grid of `count` digits the one that rounds to it; of two the nearer. -/
def onGrid? (d : Double) (count : Nat) : Option Decimal :=
  let p := d.leadingExponent + 1 - count
  let num := shift 10 (shift 2 d.significand d.exponent) (-p)
  let den := shift 10 (shift 2 1 (-d.exponent)) p
  let below := num / den
  let nearer := roundRatio num den
  let other := if nearer = below then below + 1 else below
  if d.roundsTo nearer p then some ⟨nearer, p⟩
  else if d.roundsTo other p then some ⟨other, p⟩
  else none

/-- The decimal number with the fewest digits that rounds to a positive double. Seventeen digits always do. -/
def shortest (d : Double) : Decimal :=
  ((List.range 17).findSome? fun k => d.onGrid? (k + 1)).getD ⟨0, 0⟩

/-- Takes the zeros off the end of the digits. -/
def Decimal.trim (x : Decimal) : Decimal :=
  let ds := Nat.toDigits 10 x.digits
  let kept := (ds.reverse.dropWhile (· = '0')).reverse
  ⟨Nat.ofDigitChars 10 kept 0, x.exponent + (ds.length - kept.length : Nat)⟩

/-- Writes a positive decimal number. -/
def Decimal.render (x : Decimal) : String :=
  let ds := Nat.toDigits 10 x.digits
  let point : Int := ds.length + x.exponent
  if 0 ≤ x.exponent ∧ point ≤ 16 then
    String.ofList (ds ++ List.replicate x.exponent.toNat '0') ++ ".0"
  else if 0 < point ∧ point ≤ 16 then
    String.ofList (ds.take point.toNat ++ '.' :: ds.drop point.toNat)
  else if -5 < point ∧ point ≤ 0 then
    "0." ++ String.ofList (List.replicate (-point).toNat '0' ++ ds)
  else
    let tail := if ds.length = 1 then [] else '.' :: ds.drop 1
    String.ofList (ds.take 1 ++ tail) ++ "e" ++ toString (point - 1)

/-- Writes a double as the shortest decimal number that reads back. -/
def render (d : Double) : String :=
  if d.significand = 0 then "0.0" else d.shortest.trim.render

end Hyperlink.Double
