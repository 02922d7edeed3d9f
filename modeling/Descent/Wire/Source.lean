import Descent.Json.Printer
import Descent.Json.Record
import Descent.Token

/-!
# Documents for Positions, Ranges and Tokens

How places and tokens are written as documents and read from them. Writing
puts the fields in a fixed order; reading takes them in any order. A reader
takes the number of containers it may open; each record takes one.

## Main definitions

* `Position.document`, `Range.document`, `Token.document`: Writing.
* `Position.reader`, `Range.reader`, `Token.reader`: Reading.
* `Position.ofDocument`, `Range.ofDocument`, `Token.ofDocument`: Whole texts.
-/

namespace Descent

open Json Reader

namespace Position

/-- The document of a position. -/
def document (p : Position) : String :=
  objectText
    [("line", toString p.line.toNat), ("column", toString p.column.toNat),
      ("line_text", stringText p.lineText)]

/-- A position of which some fields have been read. -/
structure Draft where
  line : Option UInt64
  column : Option UInt64
  lineText : Option String

/-- The fields of a position. -/
def fields : List (RecordField Draft) :=
  [.required "line" (·.line) (fun d a => { d with line := some a }) count,
    .required "column" (·.column) (fun d a => { d with column := some a }) count,
    .required "line_text" (·.lineText) (fun d a => { d with lineText := some a }) string]

/-- Reads a position. -/
def reader (room : Nat) : Reader Position := do
  let d ← recordOf "Position" (if room = 0 then none else some fields) ⟨none, none, none⟩
  return ⟨← taken "line" d.line, ← taken "column" d.column, ← taken "line_text" d.lineText⟩

/-- Reads a text as a position. -/
def ofDocument (text : String) : Except Fault Position :=
  (reader room).parse text

end Position

namespace Range

/-- The document of a range. -/
def document (r : Range) : String :=
  objectText [("start", r.start.document), ("end", r.stop.document)]

/-- A range of which some fields have been read. -/
structure Draft where
  start : Option Position
  stop : Option Position

/-- The fields of a range, with so much room inside it. -/
def fields (room : Nat) : List (RecordField Draft) :=
  [.required "start" (·.start) (fun d a => { d with start := some a }) (Position.reader room),
    .required "end" (·.stop) (fun d a => { d with stop := some a }) (Position.reader room)]

/-- Reads a range. -/
def reader (room : Nat) : Reader Range := do
  let d ← recordOf "SourceRange" (if room = 0 then none else some (fields (room - 1)))
    ⟨none, none⟩
  return ⟨← taken "start" d.start, ← taken "end" d.stop⟩

/-- Reads a text as a range. -/
def ofDocument (text : String) : Except Fault Range :=
  (reader room).parse text

end Range

namespace TokenKind

/-- The document of a kind. -/
def document (kind : TokenKind) : String := stringText kind.name

/-- Reads a kind. -/
def reader (room : Nat) : Reader TokenKind := variant name all (room ≠ 0)

/-- Reads a text as a kind. -/
def ofDocument (text : String) : Except Fault TokenKind :=
  (reader Reader.room).parse text

end TokenKind

namespace Token

/-- The document of a token. -/
def document (t : Token) : String :=
  objectText
    [("value", stringText t.value), ("kind", t.kind.document), ("start", t.start.document)]

/-- A token of which some fields have been read. -/
structure Draft where
  value : Option String
  kind : Option TokenKind
  start : Option Position

/-- The fields of a token, with so much room inside it. -/
def fields (room : Nat) : List (RecordField Draft) :=
  [.required "value" (·.value) (fun d a => { d with value := some a }) string,
    .required "kind" (·.kind) (fun d a => { d with kind := some a }) (TokenKind.reader room),
    .required "start" (·.start) (fun d a => { d with start := some a }) (Position.reader room)]

/-- Reads a token. -/
def reader (room : Nat) : Reader Token := do
  let d ← recordOf "Token" (if room = 0 then none else some (fields (room - 1)))
    ⟨none, none, none⟩
  return ⟨← taken "value" d.value, ← taken "kind" d.kind, ← taken "start" d.start⟩

/-- Reads a text as a token. -/
def ofDocument (text : String) : Except Fault Token :=
  (reader room).parse text

end Token

end Descent
