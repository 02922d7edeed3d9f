import Descent.Problem
import Descent.Snippet

/-!
# Diagnostics

A problem as it is reported: what was wrong, the message and its text, the
token that was current, and the file. All else that a tool may ask for, such
as the span of the token in bytes or the code of the problem, follows from
these.

## Main definitions

* `Span`: A part of a line, in bytes.
* `Token.span`: The part of its line that a token covers.
* `Label`: A marked part of a line, with words at it.
* `Diagnostic`: A reported problem.
* `Diagnostic.source`, `Diagnostic.sourceName`: What it quotes.
* `Diagnostic.span`, `Diagnostic.label`, `Diagnostic.labels`: What it marks.
* `Diagnostic.code`, `Diagnostic.help?`: What it says to tools and readers.
-/

namespace Descent

open Text

/-- A part of a line, in bytes. -/
structure Span where
  offset : Nat
  length : Nat
  deriving DecidableEq, Repr

/-- The span of a problem that no token shows. -/
def Span.none : Span := ⟨0, 0⟩

/-- The part of its line that a token covers, as far as the line goes. -/
def Token.span (t : Token) : Span :=
  let first := t.start.offset t.start.column.toNat
  let stop := max first (t.start.offset t.stopColumn)
  ⟨first, stop - first⟩

/-- A marked part of a line, with words at it. -/
structure Label where
  text : String
  span : Span
  deriving DecidableEq, Repr

/-- A reported problem. -/
structure Diagnostic where
  problem : Problem
  message : String
  detail : Option String
  /-- The token that was current when the problem was met. -/
  token : Option Token
  filename : String
  /-- The message as the formatter in charge put it. -/
  rendered : String
  deriving DecidableEq, Repr

namespace Diagnostic

/-- Where the problem is, if a token shows it. -/
def position? (d : Diagnostic) : Option Position :=
  d.token.map (·.start)

/-- The line that the problem is on. -/
def source (d : Diagnostic) : String :=
  (d.position?.map (·.lineText)).getD ""

/-- The line goes by the name of the file that it came from. -/
def sourceName (d : Diagnostic) : String :=
  d.filename

/-- The part of the line that is marked. -/
def span (d : Diagnostic) : Span :=
  (d.token.map (·.span)).getD .none

/-- The words at the marked part. -/
def label (d : Diagnostic) : String :=
  d.detail.getD d.problem.label

/-- All that is marked: one part, with its words. -/
def labels (d : Diagnostic) : List Label :=
  [⟨d.label, d.span⟩]

/-- The code of the problem, with the name of the whole in front. -/
def code (d : Diagnostic) : String :=
  "parse_context::" ++ d.problem.code

/-- Advice for the reader. -/
def help? (d : Diagnostic) : Option String :=
  d.problem.help?

end Diagnostic

end Descent
