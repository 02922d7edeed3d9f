import Descent.Diagnostic
import Descent.Options

/-!
# Painted Text

A diagnostic on a terminal is text in which two words have a colour of their
own. The text is made of pieces that know their paint. Written plainly, a
piece is its text; written for a terminal, a painted piece stands between
the sequences that switch its paint on and everything off again.

## Main definitions

* `Paint`: A colour, perhaps bold.
* `Piece`: Text with its paint.
* `plainText`, `terminalText`: Pieces without and with their paint.
* `Diagnostic.pieces`: A diagnostic in pieces.
* `Diagnostic.written`: A diagnostic as it is written to a terminal or file.

## Theorems

* `plainText_append`, `terminalText_append`: Pieces are written one by one.
-/

namespace Descent

/-- The colours in use. -/
inductive Colour where
  | red
  | cyan
  deriving DecidableEq, Repr

/-- The number of a colour on a terminal. -/
def Colour.number : Colour → Nat
  | .red => 31
  | .cyan => 36

/-- How a piece of text is painted. -/
structure Paint where
  colour : Colour
  isBold : Bool
  deriving DecidableEq, Repr

/-- A piece of text, unpainted or with its paint. -/
structure Piece where
  text : String
  paint : Option Paint
  deriving DecidableEq, Repr

namespace Piece

/-- A piece without paint. -/
def bare (text : String) : Piece := ⟨text, none⟩

/-- A piece with paint. -/
def painted (text : String) (colour : Colour) (isBold : Bool) : Piece :=
  ⟨text, some ⟨colour, isBold⟩⟩

end Piece

/-- The sequence that gives a terminal an instruction by its number. -/
def instruction (number : Nat) : String :=
  "\x1b[" ++ toString number ++ "m"

/-- Switches everything off. -/
def paintOff : String := instruction 0

/-- Switches a paint on, everything else being off. -/
def Paint.on (p : Paint) : String :=
  paintOff ++ (if p.isBold then instruction 1 else "") ++ instruction p.colour.number

/-- A piece as a terminal wants it. -/
def Piece.forTerminal (p : Piece) : String :=
  match p.paint with
  | some paint => paint.on ++ p.text ++ paintOff
  | none => p.text

/-- Pieces without their paint. -/
def plainText (pieces : List Piece) : String :=
  String.join (pieces.map (·.text))

/-- Pieces with their paint. -/
def terminalText (pieces : List Piece) : String :=
  String.join (pieces.map (·.forTerminal))

/-- Pieces are written one by one, without their paint. -/
@[simp]
theorem plainText_append (first second : List Piece) :
    plainText (first ++ second) = plainText first ++ plainText second := by
  simp [plainText]

/-- Pieces are written one by one, with their paint. -/
@[simp]
theorem terminalText_append (first second : List Piece) :
    terminalText (first ++ second) = terminalText first ++ terminalText second := by
  simp [terminalText]

namespace Diagnostic

/-- A diagnostic in pieces: a red headline with the code, the text, and
    advice if there is any. -/
def pieces (d : Diagnostic) : List Piece :=
  [.painted "error" .red true, .bare ("[" ++ d.code ++ "]:\n"), .bare (d.rendered ++ "\n")] ++
    match d.help? with
    | some help => [.painted "help" .cyan false, .bare (": " ++ help ++ "\n")]
    | none => []

/-- A diagnostic as it is written, in colour or not. -/
def written (d : Diagnostic) (inColour : Bool) : String :=
  if inColour then terminalText d.pieces else plainText d.pieces

/-- A diagnostic as it is printed in a colour mode. -/
def printed (d : Diagnostic) (mode : ColourMode) (surroundingsAllow : Bool) : String :=
  d.written (mode.paints surroundingsAllow)

end Diagnostic

end Descent
