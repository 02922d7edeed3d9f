import Descent.Cursor.Report

/-!
# Matching Tokens

Testing the current token, consuming it if it fits, and insisting that it
does. A token that does not fit is never consumed, and the feed is not even
asked for the next one.

## Main definitions

* `Cursor.isOn`: Whether the current token meets an expectation.
* `Cursor.eat`: Consumes the token if it does.
* `Cursor.expect`: Consumes the token, or gives a diagnostic.
-/

namespace Descent

namespace Cursor

variable {σ : Type}

/-- Whether there is a current token and it meets the expectation. -/
def isOn (c : Cursor σ) (expected : Expectation) : Bool :=
  c.token.any expected.accepts

/-- The diagnostic of an expectation that was not met. -/
def mismatch (c : Cursor σ) : Expectation → Logged Diagnostic
  | .oneOf values => c.unexpectedValue (", ".intercalate values)
  | .ofKind kind => c.unexpected (some kind.name)
  | .unspecified => c.unexpected none

variable [TokenFeed σ]

/-- Consumes the current token if it meets the expectation, and says whether
    it did. -/
def eat (c : Cursor σ) (expected : Expectation) : Logged (Bool × Cursor σ) :=
  if c.isOn expected then do
    return (true, ← c.advance)
  else do
    Logged.note (.missed expected)
    return (false, c)

/-- Consumes the current token and gives it, or a diagnostic in its place. -/
def expect (c : Cursor σ) (expected : Expectation) :
    Logged (Except Diagnostic Token × Cursor σ) := do
  let (matched, behind) ← c.eat expected
  match matched, c.token with
  | true, some token => return (.ok token, behind)
  | _, _ => return (.error (← behind.mismatch expected), behind)

end Cursor

end Descent
