import Descent.Cursor

/-!
# Reporting Problems

A diagnostic is built at the cursor: it shows the current token and goes
through the formatter in charge. Building one does not raise it; what becomes
of it is up to the caller.

## Main definitions

* `Cursor.report`: A diagnostic for a problem.
* `Cursor.general`, `Cursor.unexpectedValue`, `Cursor.unexpected`,
  `Cursor.unknown`, `Cursor.unsupported`, `Cursor.invertedRange`: The usual
  messages for the six problems.
-/

namespace Descent

namespace Cursor

variable {σ : Type}

/-- The diagnostic of a problem at the cursor. -/
def diagnose (c : Cursor σ) (problem : Problem) (message : String) (detail : Option String) :
    Diagnostic :=
  { problem, message, detail
    token := c.token
    filename := c.filename
    rendered := c.formatter message detail c.token c.filename "unknown" }

/-- The diagnostic of a problem at the cursor, with the event that says so. -/
def report (c : Cursor σ) (problem : Problem) (message : String) (detail : Option String) :
    Logged Diagnostic :=
  ⟨c.diagnose problem message detail, [.reported problem.code message c.filename]⟩

/-- A problem in the parser's own words. -/
def general (c : Cursor σ) (message : String) (detail : Option String) : Logged Diagnostic :=
  c.report .general message detail

/-- The value of the token is not the one expected. -/
def unexpectedValue (c : Cursor σ) (expected : String) : Logged Diagnostic :=
  c.report (.unexpectedValue expected) ("Expected: " ++ expected) (some "Unexpected value")

/-- The token is not what the description says. -/
def unexpected (c : Cursor σ) (description : Option String) : Logged Diagnostic :=
  let expected := description.getD "a token"
  let found := c.token.map (·.kind)
  c.report (.unexpectedToken expected found) ("Expected: " ++ expected)
    (some ("Unexpected token " ++ (found.map (·.name)).getD "end of input"))

/-- The grammar has no place for this. -/
def unknown (c : Cursor σ) (value : String) : Logged Diagnostic :=
  c.report (.unknownToken value) "Unknown token" (some value)

/-- The current token starts something that is left out on purpose. -/
def unsupported (c : Cursor σ) : Logged Diagnostic :=
  let feature := (c.token.map (·.value)).getD ""
  c.report (.unsupportedFeature feature) "Language feature not supported" (some feature)

/-- A node would end in front of its start. -/
def invertedRange (c : Cursor σ) (start stop : Position) : Logged Diagnostic :=
  c.report (.invertedRange start.text stop.text) "Invalid node range"
    (some ("node ends at " ++ stop.text ++ " before it starts at " ++ start.text))

end Cursor

end Descent
