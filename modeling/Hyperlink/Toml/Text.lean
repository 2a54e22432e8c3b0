import Hyperlink.Text.Hex

/-!
# Hyperlink.Toml.Text — strings, white space and comments of TOML texts

Readers take what they read from the front of a text and return the rest. Control characters other than the tab stand
nowhere, and a carriage return only in front of a line feed.

* `basic?`, `literal?`, `multiBasic?`, `multiLiteral?`: the four kinds of strings, from behind the opening quotes on.
* `lineEnd?`: what may stand between a statement and the next line; `skipLines?`: what may stand between the items of an
  array.
* `quote`: writes a string on one line.
-/

namespace Hyperlink.Toml

/-- The white space within a line. -/
def isBlank (c : Char) : Bool := c = ' ' || c = '\t'

/-- The characters that may stand in comments and strings as they are. -/
def isText (c : Char) : Bool := c = '\t' || (' ' ≤ c && c ≠ '\x7f')

/-- The text without white space in front. -/
def skipBlanks (cs : List Char) : List Char := cs.dropWhile isBlank

theorem skipBlanks_length (cs : List Char) : (skipBlanks cs).length ≤ cs.length :=
  (List.dropWhile_suffix (l := cs) isBlank).length_le

/-! ## Lines -/

/-- The next line, if nothing but white space and a comment stands in front of it. -/
def lineEnd? (inComment : Bool) : List Char → Option (List Char)
  | [] => some []
  | '\n' :: cs => some cs
  | '\r' :: '\n' :: cs => some cs
  | c :: cs =>
    if inComment then if isText c then lineEnd? true cs else none
    else if isBlank c then lineEnd? false cs
    else if c = '#' then lineEnd? true cs
    else none

/-- The text without white space, comments and line ends in front. -/
def skipLines? (inComment : Bool) : List Char → Option (List Char)
  | [] => if inComment then none else some []
  | '\n' :: cs => skipLines? false cs
  | '\r' :: '\n' :: cs => skipLines? false cs
  | c :: cs =>
    if inComment then if isText c then skipLines? true cs else none
    else if isBlank c then skipLines? false cs
    else if c = '#' then skipLines? true cs
    else some (c :: cs)

/-! ## Strings -/

/-- The character that an escape of hexadecimal digits stands for. -/
def hexChar? (digits : List Char) : Option Char :=
  let n := Text.hexNumber digits
  if digits.all Text.isHexDigit ∧ n.isValidChar then some (Char.ofNat n) else none

/-- The character that a short escape stands for. -/
def escaped? : Char → Option Char
  | 'b' => some '\x08'
  | 't' => some '\t'
  | 'n' => some '\n'
  | 'f' => some '\x0c'
  | 'r' => some '\r'
  | '"' => some '"'
  | '\\' => some '\\'
  | _ => none

/-- The character that an escape stands for, given what follows the backslash, and the number of characters that the
escape takes behind it. -/
def escape? : List Char → Option (Char × Nat)
  | 'u' :: cs => if (cs.take 4).length = 4 then (hexChar? (cs.take 4)).map (·, 5) else none
  | 'U' :: cs => if (cs.take 8).length = 8 then (hexChar? (cs.take 8)).map (·, 9) else none
  | c :: _ => (escaped? c).map (·, 1)
  | [] => none

/-- The characters of a string in quotes up to the closing one, and what follows it. -/
def basic? (cs : List Char) : Option (List Char × List Char) :=
  match cs with
  | [] => none
  | '"' :: rest => some ([], rest)
  | '\\' :: rest =>
    match escape? rest with
    | some (c, n) => (basic? (rest.drop n)).map fun p => (c :: p.1, p.2)
    | none => none
  | c :: rest => if isText c then (basic? rest).map fun p => (c :: p.1, p.2) else none
termination_by cs.length
decreasing_by all_goals grind

theorem basic?_length {cs s rest : List Char} (h : basic? cs = some (s, rest)) : rest.length < cs.length := by
  fun_induction basic? cs generalizing s rest <;> simp_all <;> grind

/-- The characters of a string in apostrophes up to the closing one, and what follows it. -/
def literal? : List Char → Option (List Char × List Char)
  | [] => none
  | '\'' :: rest => some ([], rest)
  | c :: rest => if isText c then (literal? rest).map fun p => (c :: p.1, p.2) else none

theorem literal?_length {cs s rest : List Char} (h : literal? cs = some (s, rest)) : rest.length < cs.length := by
  fun_induction literal? cs generalizing s rest <;> simp_all
  grind

/-- The end of a string of several lines: up to two more quotes before the closing three belong to it. -/
def closing? (quote : Char) (cs : List Char) : Option (List Char × List Char) :=
  match cs with
  | a :: b :: c :: rest =>
    if a = quote ∧ b = quote ∧ c = quote then
      match rest with
      | d :: e :: rest' =>
        if d = quote ∧ e = quote then some ([quote, quote], rest')
        else if d = quote then some ([quote], e :: rest')
        else some ([], rest)
      | [d] => if d = quote then some ([quote], []) else some ([], rest)
      | [] => some ([], rest)
    else none
  | _ => none

/-- The text without white space and line ends in front. -/
def skipBreaks : List Char → List Char
  | '\n' :: cs => skipBreaks cs
  | '\r' :: '\n' :: cs => skipBreaks cs
  | c :: cs => if isBlank c then skipBreaks cs else c :: cs
  | [] => []

theorem skipBreaks_length (cs : List Char) : (skipBreaks cs).length ≤ cs.length := by
  fun_induction skipBreaks cs <;> simp_all <;> omega

/-- The text behind a backslash at the end of a line: what follows the white space and the line ends. -/
def continued? (cs : List Char) : Option (List Char) :=
  match skipBlanks cs with
  | '\n' :: rest => some (skipBreaks rest)
  | '\r' :: '\n' :: rest => some (skipBreaks rest)
  | _ => none

theorem continued?_length {cs rest : List Char} (h : continued? cs = some rest) : rest.length < cs.length := by
  have := skipBlanks_length cs
  unfold continued? at h
  split at h <;> simp_all <;> grind [skipBreaks_length]

/-- The characters of a string in three quotes up to the closing ones, and what follows them. -/
def multiBasic? (cs : List Char) : Option (List Char × List Char) :=
  match closing? '"' cs with
  | some p => some p
  | none =>
    match cs with
    | [] => none
    | '\r' :: '\n' :: rest => (multiBasic? rest).map fun p => ('\n' :: p.1, p.2)
    | '\\' :: rest =>
      match _h : continued? rest with
      | some rest => multiBasic? rest
      | none =>
        match escape? rest with
        | some (c, n) => (multiBasic? (rest.drop n)).map fun p => (c :: p.1, p.2)
        | none => none
    | c :: rest => if isText c ∨ c = '\n' then (multiBasic? rest).map fun p => (c :: p.1, p.2) else none
termination_by cs.length
decreasing_by
  · grind
  · have := continued?_length _h
    grind
  · grind
  · grind

/-- The characters of a string in three apostrophes up to the closing ones, and what follows them. -/
def multiLiteral? (cs : List Char) : Option (List Char × List Char) :=
  match closing? '\'' cs with
  | some p => some p
  | none =>
    match cs with
    | [] => none
    | '\r' :: '\n' :: rest => (multiLiteral? rest).map fun p => ('\n' :: p.1, p.2)
    | c :: rest => if isText c ∨ c = '\n' then (multiLiteral? rest).map fun p => (c :: p.1, p.2) else none
termination_by cs.length
decreasing_by all_goals grind

/-- The text without a line end in front. -/
def dropLineEnd : List Char → List Char
  | '\n' :: cs => cs
  | '\r' :: '\n' :: cs => cs
  | cs => cs

/-- A string of any kind in front of a text, and what follows it. -/
def string? : List Char → Option (List Char × List Char)
  | '"' :: '"' :: '"' :: cs => multiBasic? (dropLineEnd cs)
  | '\'' :: '\'' :: '\'' :: cs => multiLiteral? (dropLineEnd cs)
  | '"' :: cs => basic? cs
  | '\'' :: cs => literal? cs
  | _ => none

/-! ## Writing -/

/-- The longest run of a character in a text, given the length of the run that ends in front of it. -/
def longestRun (c : Char) (run : Nat) : List Char → Nat
  | [] => run
  | d :: cs => if d = c then longestRun c (run + 1) cs else max run (longestRun c 0 cs)

/-- Whether a text can stand on one line as it is, if no more than `most` of the quotes may follow each other. -/
def isPlain (quote : Char) (most : Nat) (cs : List Char) : Bool := cs.all isText && longestRun quote 0 cs ≤ most

/-- The text of a character between quotes. -/
def escapeChar (c : Char) : List Char :=
  if c = '"' then ['\\', '"']
  else if c = '\\' then ['\\', '\\']
  else if c = '\x08' then ['\\', 'b']
  else if c = '\t' then ['\\', 't']
  else if c = '\n' then ['\\', 'n']
  else if c = '\x0c' then ['\\', 'f']
  else if c = '\r' then ['\\', 'r']
  else if c < ' ' ∨ c = '\x7f' then ['\\', 'u', '0', '0'] ++ Text.hexByte (UInt8.ofNat c.toNat)
  else [c]

/-- Writes a string on one line: between quotes, apostrophes, three quotes or three apostrophes, in this order, if the
text can stand there as it is, and else between quotes with escapes. Between quotes a backslash is no plain text. -/
def quote (cs : List Char) : List Char :=
  if '\\' ∉ cs ∧ isPlain '"' 0 cs then '"' :: cs ++ ['"']
  else if isPlain '\'' 0 cs then '\'' :: cs ++ ['\'']
  else if '\\' ∉ cs ∧ isPlain '"' 2 cs then ['"', '"', '"'] ++ cs ++ ['"', '"', '"']
  else if isPlain '\'' 2 cs then ['\'', '\'', '\''] ++ cs ++ ['\'', '\'', '\'']
  else '"' :: cs.flatMap escapeChar ++ ['"']

end Hyperlink.Toml
