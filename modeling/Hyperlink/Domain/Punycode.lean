/-!
# Hyperlink.Domain.Punycode — labels in ASCII letters

Punycode writes a text of any characters in ASCII letters, digits and hyphens: first the ASCII characters of the text
and a hyphen, then the other characters in ascending order, each by its distance from the one before. A distance counts
steps through all pairs of a code point and a place in the text, and is written with 36 digits in a varying radix that
follows the sizes met so far (the bias).

* `encode?`, `decode?`: a text in Punycode and back. `encode?` only gives what `decode?` reads back.
-/

namespace Hyperlink.Domain.Punycode

/-! ## Digits -/

/-- The letter or digit of a value below 36. -/
def digitChar (d : Nat) : Char :=
  if d < 26 then Char.ofNat ('a'.toNat + d) else Char.ofNat ('0'.toNat + (d - 26))

/-- The value of a letter or digit. -/
def digitValue? (c : Char) : Option Nat :=
  if 'a' ≤ c ∧ c ≤ 'z' then some (c.toNat - 'a'.toNat)
  else if 'A' ≤ c ∧ c ≤ 'Z' then some (c.toNat - 'A'.toNat)
  else if '0' ≤ c ∧ c ≤ '9' then some (c.toNat - '0'.toNat + 26)
  else none

/-- The least value that the digit at a place may have without ending the number. Places count in steps of 36. -/
def threshold (place bias : Nat) : Nat := max 1 (min 26 (place - bias))

theorem threshold_pos (place bias : Nat) : 1 ≤ threshold place bias := by unfold threshold; omega

theorem threshold_le (place bias : Nat) : threshold place bias ≤ 26 := by unfold threshold; omega

/-- Divides a distance until it is small, and counts the divisions in steps of 36. -/
def scale (distance steps : Nat) : Nat × Nat :=
  if 455 < distance then scale (distance / 35) (steps + 36) else (distance, steps)
termination_by distance
decreasing_by exact Nat.div_lt_self (by omega) (by omega)

/-- The bias after a distance, when `count` characters stand in the text. The first distance counts for less. -/
def adapt (distance count : Nat) (first : Bool) : Nat :=
  let damped := if first then distance / 700 else distance / 2
  let (rest, steps) := scale (damped + damped / count) 0
  steps + 36 * rest / (rest + 38)

/-- The bias at the start. -/
def initialBias : Nat := 72

/-- The first code point that is not ASCII. -/
def firstCode : Nat := 128

/-! ## Writing -/

/-- The digits of a distance from a place on. -/
def numberDigits (bias place q : Nat) : List Char :=
  let t := threshold place bias
  if q < t then [digitChar q]
  else digitChar (t + (q - t) % (36 - t)) :: numberDigits bias (place + 36) ((q - t) / (36 - t))
termination_by q
decreasing_by
  have h := threshold_pos place bias
  have := Nat.div_le_self (q - threshold place bias) (36 - threshold place bias)
  omega

/-- What is known between two characters while a text is written. -/
structure WriterState where
  distance : Nat
  bias : Nat
  /-- The number of characters written so far. -/
  count : Nat
  /-- The digits written so far. -/
  output : List Char

/-- Passes a character of the text while the code point `code` is written. Smaller ones stand already; the ones with
this code point are written. -/
def pass (ascii code : Nat) (s : WriterState) (c : Char) : WriterState :=
  if c.toNat < code then { s with distance := s.distance + 1 }
  else if c.toNat = code then
    { distance := 0
      bias := adapt s.distance (s.count + 1) (s.count = ascii)
      count := s.count + 1
      output := s.output ++ numberDigits s.bias 36 s.distance }
  else s

/-- Writes the code points in turn, given the first one that is not passed yet. -/
def writeCodes (text : List Char) (ascii : Nat) : Nat → List Nat → WriterState → WriterState
  | _, [], s => s
  | next, code :: codes, s =>
    let s := { s with distance := s.distance + (code - next) * (s.count + 1) }
    let s := text.foldl (pass ascii code) s
    writeCodes text ascii (code + 1) codes { s with distance := s.distance + 1 }

/-- The ASCII characters of a text. -/
def asciiPart (text : List Char) : List Char := text.filter (·.toNat < firstCode)

/-- Puts a number in its place among ascending ones, once. -/
def insertCode (n : Nat) : List Nat → List Nat
  | [] => [n]
  | m :: ms => if n < m then n :: m :: ms else if m < n then m :: insertCode n ms else m :: ms

/-- The code points of a text that are not ASCII, ascending. -/
def codes (text : List Char) : List Nat :=
  ((text.map Char.toNat).filter (firstCode ≤ ·)).foldr insertCode []

/-- The text in Punycode. -/
def encode (text : List Char) : List Char :=
  let ascii := asciiPart text
  let written := writeCodes text ascii.length firstCode (codes text) ⟨0, initialBias, ascii.length, []⟩
  (if ascii = [] then [] else ascii ++ ['-']) ++ written.output

/-! ## Reading -/

/-- Reads a distance: its value so far, the weight of the next digit and its place. -/
def readNumber (bias : Nat) : Nat → Nat → Nat → List Char → Option (Nat × List Char)
  | _, _, _, [] => none
  | value, weight, place, c :: cs =>
    match digitValue? c with
    | none => none
    | some d =>
      let t := threshold place bias
      let value := value + d * weight
      if d < t then some (value, cs) else readNumber bias value (weight * (36 - t)) (place + 36) cs

theorem readNumber_length {bias value weight place n : Nat} {cs rest : List Char}
    (h : readNumber bias value weight place cs = some (n, rest)) : rest.length < cs.length := by
  induction cs generalizing value weight place with
  | nil => simp [readNumber] at h
  | cons c cs ih =>
    simp only [readNumber] at h
    split at h
    · simp at h
    · split at h
      · simp_all
      · have := ih h
        simp
        omega

/-- The character with a code point. -/
def charOf? (n : Nat) : Option Char := if n.isValidChar then some (Char.ofNat n) else none

/-- Reads the characters that are not ASCII and puts each in its place: `code` is the code point and `place` the place
that the next distance counts from. -/
def readCodes (code place bias : Nat) (text : List Char) (cs : List Char) : Option (List Char) :=
  if cs = [] then some text
  else
    match _h : readNumber bias 0 1 36 cs with
    | none => none
    | some (distance, rest) =>
      let size := text.length + 1
      let position := place + distance
      let code := code + position / size
      match charOf? code with
      | none => none
      | some c =>
        let place := position % size
        readCodes code (place + 1) (adapt distance size (text.all (·.toNat < firstCode)))
          (text.take place ++ c :: text.drop place) rest
termination_by cs.length
decreasing_by exact readNumber_length ‹_›

/-- The parts of a text in Punycode before and after its last hyphen. A hyphen at the start separates nothing. -/
def separate (cs : List Char) : List Char × List Char :=
  let digits := (cs.reverse.takeWhile (· ≠ '-')).reverse
  let ascii := (cs.take (cs.length - digits.length)).dropLast
  if ascii = [] then ([], cs) else (ascii, digits)

/-- The text that is written in Punycode. -/
def decode? (cs : List Char) : Option (List Char) :=
  if cs.all (·.toNat < firstCode) then
    let (ascii, digits) := separate cs
    readCodes firstCode 0 initialBias ascii digits
  else none

/-- The text in Punycode, if it reads back. -/
def encode? (text : List Char) : Option (List Char) :=
  let written := encode text
  if decode? written = some text then some written else none

end Hyperlink.Domain.Punycode
