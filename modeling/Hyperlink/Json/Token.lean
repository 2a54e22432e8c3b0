import Hyperlink.Decimal.Shortest
import Hyperlink.Json.Value
import Hyperlink.Text.Cut
import Hyperlink.Text.Hex

/-!
# Hyperlink.Json.Token — the tokens of a JSON text

`Token.ofChars?` takes a text apart into brackets, separators, words and strings. White space is space, tab, carriage
return and line feed. A word runs up to white space, a bracket, a separator or a quote, and has to be `null`, `true`,
`false` or a number.

A string is read in two steps. `scanString` checks its form and keeps the `\u` escapes as UTF-16 units; `assemble`
joins surrogate pairs, and fails on half of one. So the form of a string can be right and its text not be usable.
-/

namespace Hyperlink.Json

/-- The tokens of a text. A number or string that cannot be used is `none`. -/
inductive Token
  | openArray
  | closeArray
  | openObject
  | closeObject
  | comma
  | colon
  | null
  | bool (b : Bool)
  | number (n : Option Number)
  | string (s : Option String)
  deriving DecidableEq, Repr

/-! ## Strings -/

/-- A part of a string: a character, or a UTF-16 unit that was written as an escape. -/
inductive StringPart
  | char (c : Char)
  | unit (n : Nat)
  deriving DecidableEq, Repr

/-- The UTF-16 unit written by four hexadecimal digits. -/
def unit? (a b c d : Char) : Option Nat := do
  let a ← Text.hexValue? a
  let b ← Text.hexValue? b
  let c ← Text.hexValue? c
  let d ← Text.hexValue? d
  return ((a * 16 + b) * 16 + c) * 16 + d

/-- The character that a short escape stands for. -/
def escaped? : Char → Option Char
  | '"' => some '"'
  | '\\' => some '\\'
  | '/' => some '/'
  | 'b' => some '\x08'
  | 'f' => some '\x0c'
  | 'n' => some '\n'
  | 'r' => some '\r'
  | 't' => some '\t'
  | _ => none

/-- The parts of a string up to its closing quote, and what follows the quote. Control characters have to be
escaped. -/
def scanString : List Char → Option (List StringPart × List Char)
  | [] => none
  | '"' :: rest => some ([], rest)
  | '\\' :: 'u' :: a :: b :: c :: d :: rest =>
    match unit? a b c d with
    | some n => (scanString rest).map fun p => (.unit n :: p.1, p.2)
    | none => none
  | '\\' :: e :: rest =>
    match escaped? e with
    | some c => (scanString rest).map fun p => (.char c :: p.1, p.2)
    | none => none
  | c :: rest => if c < ' ' ∨ c = '\\' then none else (scanString rest).map fun p => (.char c :: p.1, p.2)

theorem scanString_length {cs rest : List Char} {ps : List StringPart} (h : scanString cs = some (ps, rest)) :
    rest.length < cs.length := by
  fun_induction scanString cs generalizing ps rest <;> simp_all <;> grind

/-- The first unit of a surrogate pair. -/
def isHighSurrogate (n : Nat) : Bool := 0xd800 ≤ n && n < 0xdc00

/-- The second unit of a surrogate pair. -/
def isLowSurrogate (n : Nat) : Bool := 0xdc00 ≤ n && n < 0xe000

/-- The characters of the parts of a string. Half of a surrogate pair has none. -/
def assemble : List StringPart → Option (List Char)
  | [] => some []
  | .char c :: ps => (assemble ps).map (c :: ·)
  | .unit h :: .unit l :: ps =>
    if isHighSurrogate h then
      if isLowSurrogate l then
        (assemble ps).map (Char.ofNat (0x10000 + (h - 0xd800) * 0x400 + (l - 0xdc00)) :: ·)
      else none
    else if isLowSurrogate h then none
    else (assemble (.unit l :: ps)).map (Char.ofNat h :: ·)
  | .unit n :: ps =>
    if isHighSurrogate n ∨ isLowSurrogate n then none else (assemble ps).map (Char.ofNat n :: ·)

/-! ## Words -/

/-- The digits at the start of a text and what follows them; there has to be a digit. -/
def digits? (cs : List Char) : Option (List Char × List Char) :=
  match cs.takeWhile Char.isDigit with
  | [] => none
  | ds => some (ds, cs.dropWhile Char.isDigit)

/-- The whole part of a number, which has no leading zeros. -/
def wholePart? (cs : List Char) : Option (List Char × List Char) :=
  match digits? cs with
  | some (ds, rest) => if ds.length ≠ 1 ∧ ds.head? = some '0' then none else some (ds, rest)
  | none => none

/-- The digits behind the point, none without a point. -/
def fraction? : List Char → Option (List Char × List Char)
  | '.' :: cs => digits? cs
  | cs => some ([], cs)

/-- The exponent at the end of a number, none without a letter for it. -/
def exponent? : List Char → Option (Option Int)
  | [] => some none
  | c :: cs =>
    if c = 'e' ∨ c = 'E' then
      let (sign, ds) : Int × List Char :=
        match cs with
        | '-' :: ds => (-1, ds)
        | '+' :: ds => (1, ds)
        | ds => (1, ds)
      match digits? ds with
      | some (ds, []) => some (some (sign * Nat.ofDigitChars 10 ds 0))
      | _ => none
    else none

/-- The value of a number of the given parts. A whole number that fits is kept, save for the negative zero; any other
becomes the nearest double, and none if it is beyond all of them. -/
def numberOf? (negative : Bool) (whole fraction : List Char) (exponent : Option Int) : Option Number :=
  let m := Nat.ofDigitChars 10 (whole ++ fraction) 0
  let n : Int := if negative then -m else m
  if fraction = [] ∧ exponent = none ∧ integerFits n ∧ ¬ (negative ∧ m = 0) then some (.integer n)
  else
    (Double.ofDecimal? m (exponent.getD 0 - fraction.length)).map fun d =>
      .decimal ((if negative then "-" else "") ++ d.render)

/-- The number that a word writes: `none` if it writes none, `some none` for a number that cannot be used. -/
def number? (word : List Char) : Option (Option Number) := do
  let (negative, cs) := match word with | '-' :: cs => (true, cs) | cs => (false, cs)
  let (whole, cs) ← wholePart? cs
  let (fraction, cs) ← fraction? cs
  let exponent ← exponent? cs
  return numberOf? negative whole fraction exponent

/-- The token that a word stands for. -/
def word? (word : List Char) : Option Token :=
  if word = "null".toList then some .null
  else if word = "true".toList then some (.bool true)
  else if word = "false".toList then some (.bool false)
  else (number? word).map .number

/-! ## Texts -/

/-- The white space between tokens. -/
def isSpace (c : Char) : Bool := c = ' ' || c = '\t' || c = '\n' || c = '\r'

/-- The token that a single character stands for. -/
def mark? : Char → Option Token
  | '[' => some .openArray
  | ']' => some .closeArray
  | '\x7b' => some .openObject
  | '\x7d' => some .closeObject
  | ',' => some .comma
  | ':' => some .colon
  | _ => none

/-- Whether a character can be part of a word. -/
def isWordChar (c : Char) : Bool := !isSpace c && c ≠ '"' && (mark? c).isNone

namespace Token

/-- The tokens of a text. -/
def ofChars? (cs : List Char) : Option (List Token) :=
  match cs with
  | [] => some []
  | c :: rest =>
    if isSpace c then ofChars? rest
    else if c = '"' then
      match _h : scanString rest with
      | some (ps, rest') => (ofChars? rest').map (.string ((assemble ps).map String.ofList) :: ·)
      | none => none
    else
      match mark? c with
      | some t => (ofChars? rest).map (t :: ·)
      | none =>
        match word? (c :: rest.takeWhile isWordChar) with
        | some t => (ofChars? (rest.dropWhile isWordChar)).map (t :: ·)
        | none => none
termination_by cs.length
decreasing_by
  · simp
  · have := scanString_length ‹_›
    simp
    omega
  · simp
  · have := (List.dropWhile_suffix (l := rest) isWordChar).length_le
    simp
    omega

end Token

end Hyperlink.Json
