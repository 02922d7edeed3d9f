import Descent.Text.Form

/-!
# Options

The settings of one parse. None of them has a say in what is parsed; they
decide how problems are presented.

## Main definitions

* `ColourMode`: When to write in colour.
* `Options`: The name of the file and the colour mode.
-/

namespace Descent

open Text

/-- When to write in colour. -/
inductive ColourMode where
  /-- Where the surroundings allow it. -/
  | auto
  | always
  | never
  deriving DecidableEq, Repr

namespace ColourMode

/-- All modes, in the order in which a message lists them. -/
def all : List ColourMode := [.auto, .always, .never]

/-- The name of a mode in a settings file. -/
def name : ColourMode → String
  | .auto => "auto"
  | .always => "always"
  | .never => "never"

/-- The name of a mode as a word of its own. -/
def title : ColourMode → String
  | .auto => "Auto"
  | .always => "Always"
  | .never => "Never"

/-- Whether to write in colour. -/
def paints (mode : ColourMode) (surroundingsAllow : Bool) : Bool :=
  match mode with
  | .auto => surroundingsAllow
  | .always => true
  | .never => false

/-- The structure of a mode is its title. -/
def form (mode : ColourMode) : Form := .word mode.title

end ColourMode

/-- The settings of one parse. -/
structure Options where
  filename : Option String
  colour : ColourMode
  deriving DecidableEq, Repr

namespace Options

/-- No file name, and colour where the surroundings allow it. -/
def standard : Options := ⟨none, .auto⟩

/-- The name to present, also for a parse without a file. -/
def shownFilename (o : Options) : String :=
  o.filename.getD "unknown"

/-- The structure of the options. -/
def form (o : Options) : Form :=
  .record "ContextOptions"
    [("filename", .option (o.filename.map .string)), ("color", o.colour.form)] false

end Options

end Descent
