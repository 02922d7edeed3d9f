import Descent.Text.Extend
import Descent.Text.Printable

/-!
# Quoted Text

A text between double quotes in which every character can be told apart by
eye. Quotes, backslashes and the common control characters are written with
a backslash; a character that has no shape of its own, or that would melt
into the one before it, is written by its code point.

## Main definitions

* `escape`: One character inside the quotes.
* `quoted`: A whole text with its quotes.
-/

namespace Descent.Text

/-- A character by its code point, in lower-case hexadecimal. -/
def codePoint (c : Char) : List Char :=
  ['\\', 'u', '\x7b'] ++ Nat.toDigits 16 c.toNat ++ ['\x7d']

/-- One character as it stands inside the quotes. -/
def escape (c : Char) : List Char :=
  if c = '\x00' then ['\\', '0']
  else if c = '\t' then ['\\', 't']
  else if c = '\r' then ['\\', 'r']
  else if c = '\n' then ['\\', 'n']
  else if c = '"' then ['\\', '"']
  else if c = '\\' then ['\\', '\\']
  else if isExtending c || !isPrintable c then codePoint c
  else [c]

/-- The text between quotes. -/
def quoted (s : String) : String :=
  String.ofList ('"' :: s.toList.flatMap escape ++ ['"'])

end Descent.Text
