import Hyperlink.Text.Hex

/-!
# Hyperlink.Url.Percent — percent encoding

`percentEncode set cs` writes each character of `set` as the bytes of its UTF-8 form, every byte as a percent sign and
two hexadecimal digits. Each part of a URL has a set of its own. `percentDecode?` reads such bytes back, and fails if
the bytes are no UTF-8.
-/

namespace Hyperlink.Url

/-- The characters that are encoded everywhere: control characters and all that are not ASCII. -/
def controlSet (c : Char) : Bool := c < ' ' || '\x7e' < c

/-- The characters that are encoded in a fragment. -/
def fragmentSet (c : Char) : Bool := controlSet c || " \"<>`".toList.contains c

/-- The characters that are encoded in a path. -/
def pathSet (c : Char) : Bool := fragmentSet c || "#?\x7b\x7d".toList.contains c

/-- The characters that are encoded in the name and the password of a user. -/
def userinfoSet (c : Char) : Bool := pathSet c || "/:;=@[\\]^|".toList.contains c

/-- The characters that are encoded in a query. -/
def querySet (c : Char) : Bool := controlSet c || " \"#<>'".toList.contains c

/-- The bytes of a character, encoded. -/
def encodeChar (c : Char) : List Char :=
  (String.utf8EncodeChar c).flatMap fun b => '%' :: Text.hexByte b

/-- The text with the characters of the set encoded. -/
def percentEncode (set : Char → Bool) (cs : List Char) : List Char :=
  cs.flatMap fun c => if set c then encodeChar c else [c]

/-- The bytes of a text in which encoded bytes stand for themselves. A percent sign without two digits behind it is
kept. -/
def percentBytes : List Char → List UInt8
  | [] => []
  | '%' :: a :: b :: cs =>
    match Text.hexValue? a, Text.hexValue? b with
    | some a, some b => UInt8.ofNat (16 * a + b) :: percentBytes cs
    | _, _ => String.utf8EncodeChar '%' ++ percentBytes (a :: b :: cs)
  | c :: cs => String.utf8EncodeChar c ++ percentBytes cs

/-- The text with its encoded bytes read back. A text without a percent sign stands for itself. -/
def percentDecode? (cs : List Char) : Option (List Char) :=
  if '%' ∈ cs then (String.fromUTF8? ⟨(percentBytes cs).toArray⟩).map String.toList else some cs

end Hyperlink.Url
