import Descent.Json.Printer
import Descent.Json.Record
import Descent.Options

/-!
# Documents for Options

Options are an object of which every field may be left out. A missing file
name is the same as null, and a missing colour mode is automatic.

## Main definitions

* `Options.document`: Writing options.
* `Options.ofDocument`: Reading options from a text.
-/

namespace Descent

open Json Reader

namespace ColourMode

/-- The document of a colour mode. -/
def document (mode : ColourMode) : String := stringText mode.name

/-- Reads a colour mode. -/
def reader (room : Nat) : Reader ColourMode := variant name all (room ≠ 0)

/-- Reads a text as a colour mode. -/
def ofDocument (text : String) : Except Fault ColourMode :=
  (reader Reader.room).parse text

end ColourMode

namespace Options

/-- The document of options. -/
def document (o : Options) : String :=
  objectText [("filename", optionText stringText o.filename), ("color", o.colour.document)]

/-- Options of which some fields have been read. -/
structure Draft where
  filename : Option (Option String)
  colour : Option ColourMode

/-- The fields of options, with so much room inside them. -/
def fields (room : Nat) : List (RecordField Draft) :=
  [.optional "filename" (·.filename) (fun d a => { d with filename := some a }) string?,
    .optional "color" (·.colour) (fun d a => { d with colour := some a })
      (ColourMode.reader room)]

/-- Reads options. -/
def reader (room : Nat) : Reader Options := do
  let d ← recordOf "ContextOptions" (if room = 0 then none else some (fields (room - 1)))
    ⟨none, none⟩
  return ⟨d.filename.getD standard.filename, d.colour.getD standard.colour⟩

/-- Reads a text as options. -/
def ofDocument (text : String) : Except Fault Options :=
  (reader room).parse text

end Options

end Descent
