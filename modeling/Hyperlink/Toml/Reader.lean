import Hyperlink.Toml.Text
import Hyperlink.Toml.Word

/-!
# Hyperlink.Toml.Reader — reading TOML documents

A document is a row of statements, each on a line of its own: pairs and headings. `Document.ofChars?` reads them and
`Toml.parse?` builds the tables that they describe. A byte order mark in front is passed over.

Arrays and inline tables that lie deeper than `maxDepth` levels are refused, and so are keys of more parts.
-/

namespace Hyperlink.Toml

/-- The number of levels of arrays and inline tables, and of parts of a key, that can be used. -/
def maxDepth : Nat := 79

/-! ## Keys -/

/-- Whether a character can stand in a key without quotes. -/
def isBareKeyChar (c : Char) : Bool := c.isAlphanum || c = '_' || c = '-'

/-- A part of a key in front of a text, and what follows it. -/
def keyPart? : List Char → Option (List Char × List Char)
  | [] => none
  | c :: cs =>
    if c = '"' then basic? cs
    else if c = '\'' then literal? cs
    else if isBareKeyChar c then some (c :: cs.takeWhile isBareKeyChar, cs.dropWhile isBareKeyChar)
    else none

theorem keyPart?_length {cs part rest : List Char} (h : keyPart? cs = some (part, rest)) :
    rest.length < cs.length := by
  match cs with
  | [] => contradiction
  | c :: cs =>
    have := (List.dropWhile_suffix (l := cs) isBareKeyChar).length_le
    simp only [keyPart?] at h
    split at h
    · exact Nat.lt_succ_of_lt (basic?_length h)
    · split at h
      · exact Nat.lt_succ_of_lt (literal?_length h)
      · grind

/-- The parts of a key in front of a text, and what follows them. White space may stand around each part. -/
def parts? (cs : List Char) : Option (List String × List Char) :=
  match _h : keyPart? (skipBlanks cs) with
  | none => none
  | some (part, rest) =>
    match _h' : skipBlanks rest with
    | '.' :: rest => (parts? rest).map fun p => (String.ofList part :: p.1, p.2)
    | rest => some ([String.ofList part], rest)
termination_by cs.length
decreasing_by
  have := keyPart?_length _h
  have := skipBlanks_length cs
  have := _h' ▸ skipBlanks_length _
  grind

/-- A key in front of a text, and what follows it. -/
def key? (cs : List Char) : Option (List String × List Char) :=
  (parts? cs).filter (·.1.length ≤ maxDepth)

/-! ## Values -/

/-- The value of a word in front of a text, and what follows it. -/
def scalar? (cs : List Char) : Option (Node × List Char) :=
  let (word, rest) := takeWord cs
  (Scalar.ofWord? word).map fun s => (.scalar s, rest)

mutual

/-- Reads a value in front of a text that is enclosed by `depth` arrays and inline tables. -/
def value? (fuel depth : Nat) (cs : List Char) : Option (Node × List Char) :=
  match fuel with
  | 0 => none
  | fuel + 1 =>
    match cs with
    | '[' :: rest =>
      if depth < maxDepth then (items? fuel (depth + 1) rest).map fun p => (.array p.1, p.2) else none
    | '\x7b' :: rest =>
      if depth < maxDepth then
        match skipBlanks rest with
        | '\x7d' :: rest => some (.inlineTable [], rest)
        | rest => do
          let (pairs, rest) ← pairs? fuel (depth + 1) rest
          return (.inlineTable (← Entries.addPairs? [] pairs), rest)
      else none
    | '"' :: _ | '\'' :: _ => (string? cs).map fun p => (.scalar (.string (String.ofList p.1)), p.2)
    | _ => scalar? cs

/-- Reads the items of an array up to its closing bracket. A comma may follow the last one. -/
def items? (fuel depth : Nat) (cs : List Char) : Option (List Node × List Char) :=
  match fuel with
  | 0 => none
  | fuel + 1 =>
    match skipLines? false cs with
    | some (']' :: rest) => some ([], rest)
    | some cs =>
      match value? fuel depth cs with
      | some (v, rest) =>
        match skipLines? false rest with
        | some (',' :: rest) => (items? fuel depth rest).map fun p => (v :: p.1, p.2)
        | some (']' :: rest) => some ([v], rest)
        | _ => none
      | none => none
    | none => none

/-- Reads the pairs of an inline table up to its closing brace. They stand on one line. -/
def pairs? (fuel depth : Nat) (cs : List Char) : Option (List (List String × Node) × List Char) :=
  match fuel with
  | 0 => none
  | fuel + 1 =>
    match key? cs with
    | some (keys, '=' :: rest) =>
      match value? fuel depth (skipBlanks rest) with
      | some (v, rest) =>
        match skipBlanks rest with
        | ',' :: rest => (pairs? fuel depth rest).map fun p => ((keys, v) :: p.1, p.2)
        | '\x7d' :: rest => some ([(keys, v)], rest)
        | _ => none
      | none => none
    | _ => none

end

/-! ## Statements -/

/-- The statements of a document. -/
inductive Statement
  | pair (keys : List String) (value : Node)
  | heading (h : Heading)

/-- The document of a row of statements: a heading stands above the pairs up to the next one. -/
def Document.ofStatements : List Statement → Document
  | [] => ⟨[], []⟩
  | .pair keys v :: rest =>
    let d := ofStatements rest
    ⟨(keys, v) :: d.pairs, d.sections⟩
  | .heading h :: rest =>
    let d := ofStatements rest
    ⟨[], ⟨h, d.pairs⟩ :: d.sections⟩

/-- Reads a statement in front of a text. Every value is enclosed by what fits into the text, so the fuel suffices. -/
def statement? (cs : List Char) : Option (Statement × List Char) :=
  match cs with
  | '[' :: '[' :: rest =>
    match key? rest with
    | some (keys, ']' :: ']' :: rest) => some (.heading (.tables keys), rest)
    | _ => none
  | '[' :: rest =>
    match key? rest with
    | some (keys, ']' :: rest) => some (.heading (.table keys), rest)
    | _ => none
  | _ =>
    match key? cs with
    | some (keys, '=' :: rest) =>
      (value? (2 * rest.length + 2) 0 (skipBlanks rest)).map fun p => (.pair keys p.1, p.2)
    | _ => none

/-- Reads the statements of a text. Each takes at least a character. -/
def statements? (fuel : Nat) (cs : List Char) : Option (List Statement) :=
  match fuel with
  | 0 => none
  | fuel + 1 =>
    if cs.isEmpty then some []
    else
      match lineEnd? false cs with
      | some rest => statements? fuel rest
      | none => do
        let (s, rest) ← statement? (skipBlanks cs)
        let rest ← lineEnd? false rest
        return s :: (← statements? fuel rest)

/-- The document that a text writes. -/
def Document.ofChars? (cs : List Char) : Option Document :=
  (statements? (cs.length + 1) cs).map ofStatements

/-- The byte order mark. -/
def byteOrderMark : Char := '\ufeff'

/-- The outermost table that a text describes. -/
def parse? (text : String) : Option Entries :=
  let cs := match text.toList with | c :: cs => if c = byteOrderMark then cs else c :: cs | [] => []
  (Document.ofChars? cs).bind Document.root?

end Hyperlink.Toml
