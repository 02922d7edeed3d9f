import Descent.Json.Value

/-!
# Writing Documents

The compact text of a value: no blanks, the members of an object in their
order, strings with as few escapes as possible. Quotes and backslashes are
escaped, and so are control characters, five of them by a letter of their
own; all other characters stand as they are.

## Main definitions

* `escapeChar`: One character of a string.
* `stringText`: A string with its quotes.
* `listText`, `objectText`: Containers of texts.
* `Value.text`: The text of a value.
-/

namespace Descent.Json

variable {α : Type}

/-- A control character by its code point. -/
def controlEscape (c : Char) : List Char :=
  let hex := Nat.toDigits 16 c.toNat
  ['\\', 'u'] ++ List.replicate (4 - hex.length) '0' ++ hex

/-- One character as it stands in a string. -/
def escapeChar (c : Char) : List Char :=
  if c = '"' then ['\\', '"']
  else if c = '\\' then ['\\', '\\']
  else if c = '\x08' then ['\\', 'b']
  else if c = '\x0c' then ['\\', 'f']
  else if c = '\n' then ['\\', 'n']
  else if c = '\r' then ['\\', 'r']
  else if c = '\t' then ['\\', 't']
  else if c < ' ' then controlEscape c
  else [c]

/-- A string with its quotes. -/
def stringText (s : String) : String :=
  String.ofList ('"' :: s.toList.flatMap escapeChar ++ ['"'])

/-- A list of items that have been written. -/
def listText (items : List String) : String :=
  "[" ++ ",".intercalate items ++ "]"

/-- An object of members that have been written. -/
def objectText (members : List (String × String)) : String :=
  "\x7b" ++ ",".intercalate (members.map fun m => stringText m.1 ++ ":" ++ m.2) ++ "\x7d"

/-- The text of an option, null for nothing. -/
def optionText (write : α → String) : Option α → String
  | none => "null"
  | some a => write a

namespace Value

mutual

/-- The text of a value. -/
def text : Value → String
  | .null => "null"
  | .boolean true => "true"
  | .boolean false => "false"
  | .number n => n.text
  | .string s => stringText s
  | .array items => listText (itemTexts items)
  | .object members => objectText (memberTexts members)

/-- The texts of items. -/
def itemTexts : List Value → List String
  | [] => []
  | item :: rest => item.text :: itemTexts rest

/-- The texts of members under their keys. -/
def memberTexts : List (String × Value) → List (String × String)
  | [] => []
  | (key, value) :: rest => (key, value.text) :: memberTexts rest

end

end Value

end Descent.Json
