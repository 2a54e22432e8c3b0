import Hyperlink.Json.Token

/-!
# Hyperlink.Json.Reader — reading JSON texts

`Json.parse?` reads a text that holds one value and nothing else. Arrays and objects that lie deeper than `maxDepth`
levels, the outermost one counted, are refused, and so is an object that has a key without a usable text.
-/

namespace Hyperlink.Json

/-- The number of levels of arrays and objects that can be used. -/
def maxDepth : Nat := 127

/-- The object of the members that were read; a key without a usable text spoils all of it. -/
def ofMembers (members : List (Option String × Json)) : Json :=
  match members.mapM fun m => m.1.map (·, m.2) with
  | some ms => object ms
  | none => refused

mutual

/-- Reads a value in front of the tokens that is enclosed by `depth` arrays and objects. -/
def value? (fuel depth : Nat) (tokens : List Token) : Option (Json × List Token) :=
  match fuel with
  | 0 => none
  | fuel + 1 =>
    let enclosed (j : Json) : Json := if depth < maxDepth then j else refused
    match tokens with
    | .null :: rest => some (null, rest)
    | .bool b :: rest => some (bool b, rest)
    | .number n :: rest => some (n.elim refused number, rest)
    | .string s :: rest => some (s.elim refused string, rest)
    | .openArray :: .closeArray :: rest => some (enclosed (array []), rest)
    | .openArray :: rest => (items? fuel (depth + 1) rest).map fun p => (enclosed (array p.1), p.2)
    | .openObject :: .closeObject :: rest => some (enclosed (object []), rest)
    | .openObject :: rest => (members? fuel (depth + 1) rest).map fun p => (enclosed (ofMembers p.1), p.2)
    | _ => none

/-- Reads the items of an array up to its closing bracket. -/
def items? (fuel depth : Nat) (tokens : List Token) : Option (List Json × List Token) :=
  match fuel with
  | 0 => none
  | fuel + 1 =>
    match value? fuel depth tokens with
    | some (v, .comma :: rest) => (items? fuel depth rest).map fun p => (v :: p.1, p.2)
    | some (v, .closeArray :: rest) => some ([v], rest)
    | _ => none

/-- Reads the members of an object up to its closing brace. -/
def members? (fuel depth : Nat) (tokens : List Token) : Option (List (Option String × Json) × List Token) :=
  match fuel with
  | 0 => none
  | fuel + 1 =>
    match tokens with
    | .string k :: .colon :: tokens =>
      match value? fuel depth tokens with
      | some (v, .comma :: rest) => (members? fuel depth rest).map fun p => ((k, v) :: p.1, p.2)
      | some (v, .closeObject :: rest) => some ([(k, v)], rest)
      | _ => none
    | _ => none

end

/-- The value that the tokens spell. Each token is met by at most two steps of the reader. -/
def ofTokens? (tokens : List Token) : Option Json :=
  match value? (2 * tokens.length + 1) 0 tokens with
  | some (v, []) => some v
  | _ => none

/-- The value that a text spells. -/
def parse? (text : String) : Option Json := (Token.ofChars? text.toList).bind ofTokens?

end Hyperlink.Json
