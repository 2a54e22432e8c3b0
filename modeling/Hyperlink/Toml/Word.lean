import Hyperlink.Decimal.Nearest
import Hyperlink.Text.Hex
import Hyperlink.Toml.Value

/-!
# Hyperlink.Toml.Word — numbers, dates and truth values of TOML texts

A word is a run of letters, digits, signs, points, colons and underscores. Between a date and a time it may hold a
single space. `Scalar.ofWord?` gives the value that a word writes.

* Integers have no leading zeros and fit into 64 bits with a sign. Digits may have single underscores between them.
* Floats have a fraction, an exponent or both. One that rounds to positive infinity is refused.
* A date has to be a day of the calendar, and a time counts seconds up to 60.
-/

namespace Hyperlink.Toml

/-- Whether a character can be part of a word. -/
def isWordChar (c : Char) : Bool := c.isAlphanum || c ∈ ['+', '-', '_', '.', ':']

/-! ## Numbers -/

/-- The digits of a text that holds nothing else, save for single underscores between them. -/
def digits? (isDigit : Char → Bool) : List Char → Option (List Char)
  | [] => none
  | [c] => if isDigit c then some [c] else none
  | c :: '_' :: cs => if isDigit c then (digits? isDigit cs).map (c :: ·) else none
  | c :: cs => if isDigit c then (digits? isDigit cs).map (c :: ·) else none

/-- Whether a text starts with a minus sign, and the text without its sign. -/
def takeSign : List Char → Bool × List Char
  | '-' :: cs => (true, cs)
  | '+' :: cs => (false, cs)
  | cs => (false, cs)

/-- The digits of a decimal number without leading zeros. -/
def whole? (cs : List Char) : Option (List Char) := do
  let ds ← digits? Char.isDigit cs
  if ds.head? = some '0' ∧ ds.length ≠ 1 then none else some ds

/-- The integer, if it fits into 64 bits. -/
def fitting? (n : Int) : Option Int := if -0x8000000000000000 ≤ n ∧ n < 0x8000000000000000 then some n else none

/-- The integer that a word writes, in the decimal, hexadecimal, octal or binary system. -/
def integer? : List Char → Option Int
  | '0' :: 'x' :: cs => do fitting? (Text.hexNumber (← digits? Text.isHexDigit cs))
  | '0' :: 'o' :: cs => do fitting? (Nat.ofDigitChars 8 (← digits? (fun c => '0' ≤ c && c ≤ '7') cs) 0)
  | '0' :: 'b' :: cs => do fitting? (Nat.ofDigitChars 2 (← digits? (fun c => c = '0' || c = '1') cs) 0)
  | cs => do
    let (negative, cs) := takeSign cs
    let n := Nat.ofDigitChars 10 (← whole? cs) 0
    fitting? (if negative then -n else n)

/-- The number that the exponent of a float writes. -/
def exponent? (cs : List Char) : Option Int := do
  let (negative, cs) := takeSign cs
  let n := Nat.ofDigitChars 10 (← digits? Char.isDigit cs) 0
  return if negative then -n else n

/-- Whether a word writes a float. -/
def isFloat (word : List Char) : Bool :=
  let (negative, cs) := takeSign word
  if cs = "inf".toList ∨ cs = "nan".toList then true
  else
    let isMark (c : Char) : Bool := c = 'e' || c = 'E'
    let mantissa := cs.takeWhile (!isMark ·)
    let number : Option (Bool × Nat × Int) := do
      let whole ← whole? (mantissa.takeWhile (· ≠ '.'))
      let fraction ←
        match mantissa.dropWhile (· ≠ '.') with
        | [] => some []
        | _ :: cs => digits? Char.isDigit cs
      let exponent ←
        match cs.dropWhile (!isMark ·) with
        | [] => some none
        | _ :: cs => (exponent? cs).map some
      return (fraction ≠ [] ∨ exponent.isSome, Nat.ofDigitChars 10 (whole ++ fraction) 0,
        exponent.getD 0 - fraction.length)
    match number with
    | some (isMarked, m, e) => isMarked && (negative || (Double.ofDecimal? m e).isSome)
    | none => false

/-! ## Dates and times -/

/-- The number that two digits write. -/
def twoDigits? (a b : Char) : Option Nat :=
  if a.isDigit ∧ b.isDigit then some (Nat.ofDigitChars 10 [a, b] 0) else none

/-- Whether a year has a 29th of February. -/
def isLeapYear (year : Nat) : Bool := year % 4 = 0 && (year % 100 ≠ 0 || year % 400 = 0)

/-- The number of days of a month. -/
def daysIn (year month : Nat) : Nat :=
  if month = 2 then if isLeapYear year then 29 else 28
  else if month ∈ [4, 6, 9, 11] then 30
  else 31

/-- What follows a date. -/
def date? : List Char → Option (List Char)
  | y₁ :: y₂ :: y₃ :: y₄ :: '-' :: m₁ :: m₂ :: '-' :: d₁ :: d₂ :: rest => do
    let year := 100 * (← twoDigits? y₁ y₂) + (← twoDigits? y₃ y₄)
    let month ← twoDigits? m₁ m₂
    let day ← twoDigits? d₁ d₂
    if 1 ≤ month ∧ month ≤ 12 ∧ 1 ≤ day ∧ day ≤ daysIn year month then some rest else none
  | _ => none

/-- What follows a fraction of a second. -/
def secondFraction? : List Char → Option (List Char)
  | '.' :: cs => if (cs.takeWhile Char.isDigit).isEmpty then none else some (cs.dropWhile Char.isDigit)
  | cs => some cs

/-- What follows a time. -/
def time? : List Char → Option (List Char)
  | h₁ :: h₂ :: ':' :: m₁ :: m₂ :: ':' :: s₁ :: s₂ :: rest => do
    let hour ← twoDigits? h₁ h₂
    let minute ← twoDigits? m₁ m₂
    let second ← twoDigits? s₁ s₂
    if hour ≤ 23 ∧ minute ≤ 59 ∧ second ≤ 60 then secondFraction? rest else none
  | _ => none

/-- Whether a text is empty or the distance of a time from the universal one. -/
def isOffset : List Char → Bool
  | [] => true
  | [c] => c = 'Z' || c = 'z'
  | [sign, h₁, h₂, ':', m₁, m₂] =>
    (sign = '+' || sign = '-') && (twoDigits? h₁ h₂).any (· ≤ 23) && (twoDigits? m₁ m₂).any (· ≤ 59)
  | _ => false

/-- Whether a word writes a date, a time, or both with or without an offset. -/
def isDateTime (word : List Char) : Bool :=
  match date? word with
  | some [] => true
  | some (c :: rest) => c ∈ ['T', 't', ' '] && (time? rest).any isOffset
  | none => time? word = some []

/-! ## Words -/

/-- The value that a word writes. -/
def Scalar.ofWord? (word : List Char) : Option Scalar :=
  if word = "true".toList then some (.boolean true)
  else if word = "false".toList then some (.boolean false)
  else
    match integer? word with
    | some n => some (.integer n)
    | none =>
      if isFloat word then some (.float (String.ofList word))
      else if isDateTime word then some (.dateTime (String.ofList word))
      else none

/-- The word in front of a text and what follows it. A time may follow a date behind a space. -/
def takeWord (cs : List Char) : List Char × List Char :=
  let word := cs.takeWhile isWordChar
  match cs.dropWhile isWordChar with
  | ' ' :: a :: b :: ':' :: rest =>
    if date? word = some [] ∧ a.isDigit ∧ b.isDigit then
      (word ++ ' ' :: a :: b :: ':' :: rest.takeWhile isWordChar, rest.dropWhile isWordChar)
    else (word, ' ' :: a :: b :: ':' :: rest)
  | rest => (word, rest)

end Hyperlink.Toml
