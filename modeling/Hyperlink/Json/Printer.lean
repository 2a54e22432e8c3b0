import Hyperlink.Json.Value

/-!
# Hyperlink.Json.Printer — writing JSON texts

* `compact`: the text on one line without white space.
* `pretty`: one item or member per line, indented by two blanks per level; empty arrays and objects stay on one line.

In a string the quote, the backslash and the control characters below the blank are escaped, and nothing else.
-/

namespace Hyperlink.Json

/-- A hexadecimal digit in lower case. -/
def hexDigit (n : Nat) : Char := Nat.digitChar n

/-- The text of a character inside a string. -/
def escapeChar (c : Char) : List Char :=
  if c = '"' then ['\\', '"']
  else if c = '\\' then ['\\', '\\']
  else if c = '\x08' then ['\\', 'b']
  else if c = '\x0c' then ['\\', 'f']
  else if c = '\n' then ['\\', 'n']
  else if c = '\r' then ['\\', 'r']
  else if c = '\t' then ['\\', 't']
  else if c < ' ' then ['\\', 'u', '0', '0', hexDigit (c.toNat / 16), hexDigit (c.toNat % 16)]
  else [c]

/-- The text of a string with its quotes. -/
def quote (s : String) : String := String.ofList ('"' :: s.toList.flatMap escapeChar ++ ['"'])

/-- The text of a number. -/
def Number.render : Number → String
  | integer n => toString n
  | decimal text => text

/-- The text of a value that is no array or object. A refused value is written as null. -/
def scalar : Json → String
  | bool true => "true"
  | bool false => "false"
  | number n => n.render
  | string s => quote s
  | _ => "null"

mutual

/-- The text of a value on one line. -/
def compact : Json → String
  | array items => "[" ++ ",".intercalate (compactItems items) ++ "]"
  | object members => "\x7b" ++ ",".intercalate (compactMembers members) ++ "\x7d"
  | j => scalar j

/-- The texts of the items. -/
def compactItems : List Json → List String
  | [] => []
  | v :: vs => compact v :: compactItems vs

/-- The texts of the members. -/
def compactMembers : List (String × Json) → List String
  | [] => []
  | (k, v) :: ms => (quote k ++ ":" ++ compact v) :: compactMembers ms

end

/-- The start of a line at a level. -/
def indentation (level : Nat) : String := "\n" ++ String.ofList (List.replicate (2 * level) ' ')

/-- The lines of an array or object between its brackets; without lines nothing stands between them. -/
def bracketed (opening closing : String) (level : Nat) (lines : List String) : String :=
  if lines = [] then opening ++ closing
  else
    let inner := indentation (level + 1)
    opening ++ inner ++ ("," ++ inner).intercalate lines ++ indentation level ++ closing

mutual

/-- The text of a value on several lines, which begins at a level. -/
def prettyAt (level : Nat) : Json → String
  | array items => bracketed "[" "]" level (prettyItems (level + 1) items)
  | object members => bracketed "\x7b" "\x7d" level (prettyMembers (level + 1) members)
  | j => scalar j

/-- The texts of the items. -/
def prettyItems (level : Nat) : List Json → List String
  | [] => []
  | v :: vs => prettyAt level v :: prettyItems level vs

/-- The texts of the members. -/
def prettyMembers (level : Nat) : List (String × Json) → List String
  | [] => []
  | (k, v) :: ms => (quote k ++ ": " ++ prettyAt level v) :: prettyMembers level ms

end

/-- The text of a value on several lines. -/
def pretty (j : Json) : String := prettyAt 0 j

end Hyperlink.Json
