import Descent.Text.Width
import Descent.Token

/-!
# Snippets

The text of a message with the place it is about. The line of the token is
quoted behind its number, and carets below it mark the token, as many as the
token has cells on a terminal. Without a token only the words are left.

## Main definitions

* `Formatter`: Any way to put a message into text.
* `quotedLine`, `caretLine`: The two lines that show a token.
* `snippet`: The usual way to put a message into text.
* `oneLine`: A terse way that fits on one line.
-/

namespace Descent

open Text

/-- A way to put a message into text: from the message itself, a detail, the
    token it is about, the name of the file and that of a function. -/
abbrev Formatter :=
  (message : String) → (detail : Option String) → (token : Option Token) →
    (filename : String) → (function : String) → String

/-- So many copies of a character. -/
def copies (n : Nat) (c : Char) : String :=
  String.ofList (List.replicate n c)

/-- A detail behind a separator, if there is one. -/
def detailBehind (separator : String) : Option String → String
  | some detail => separator ++ detail
  | none => ""

/-- The line of the token behind its number. -/
def quotedLine (t : Token) : String :=
  toString t.start.line.toNat ++ " | " ++ t.start.lineText ++ "\n"

/-- The cells of the line in front of the token. -/
def indentWidth (t : Token) : Nat :=
  width (slice t.start.lineText 0 t.start.column.toNat)

/-- The cells of the token; even an empty one is marked. -/
def markWidth (t : Token) : Nat :=
  max 1 (width t.value)

/-- The carets below the token, with the detail behind them. -/
def caretLine (t : Token) (detail : Option String) : String :=
  copies (toString t.start.line.toNat).toList.length ' ' ++ " | " ++
    copies (indentWidth t) ' ' ++ copies (markWidth t) '^' ++ detailBehind " " detail ++ "\n"

/-- Where a message points, in numbers from one; both are zero without a
    token. -/
def placeText : Option Token → String
  | some t => t.start.text
  | none => "0:0"

/-- The usual text of a message: the place, the words, and where it was
    found. -/
def snippet : Formatter := fun message detail token filename function =>
  let place := match token with
    | some t => quotedLine t ++ caretLine t detail
    | none => match detail with
      | some detail => detail ++ "\n"
      | none => ""
  place ++ message ++ "\n" ++
    "  at " ++ function ++ " (" ++ filename ++ ":" ++ placeText token ++ ")"

/-- A message on one line, a dash for a missing detail. -/
def oneLine : Formatter := fun message detail token filename function =>
  function ++ "@" ++ filename ++ ": " ++ message ++ " (" ++ detail.getD "-" ++ ") [" ++
    ((token.map (·.text)).getD "") ++ "]"

end Descent
