import Hyperlink.Text.Hex
import Hyperlink.Unicode.Unprintable

/-!
# Hyperlink.Text.Quoted — texts in quotes for messages

A text in quotes stands on one line and shows each of its characters: quotes, backslashes and line ends are escaped, and
so are all characters that are not shown as they are.
-/

namespace Hyperlink.Text

/-- The text of a character between quotes. -/
def escapeChar (c : Char) : List Char :=
  if c = '"' then ['\\', '"']
  else if c = '\\' then ['\\', '\\']
  else if c = '\x00' then ['\\', '0']
  else if c = '\t' then ['\\', 't']
  else if c = '\n' then ['\\', 'n']
  else if c = '\r' then ['\\', 'r']
  else if Unicode.isUnprintable c then ['\\', 'u', '\x7b'] ++ hexDigits c.toNat ++ ['\x7d']
  else [c]

/-- A text in quotes. -/
def quote (text : String) : String := String.ofList ('"' :: text.toList.flatMap escapeChar ++ ['"'])

end Hyperlink.Text
