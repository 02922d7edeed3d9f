import Descent.Text.Columns
import Descent.Text.Form

/-!
# Positions and Ranges

A position is a point in a source text. It carries the text of its line, so
that a message can quote the line and a node can cut its own text out of it
without the rest of the source. Positions are ordered by line and then by
column; the text of the line has no say in it.

## Main definitions

* `Position`: A line, a column and the text of the line.
* `Position.precedes`: The order of positions, equal ones included.
* `Position.offset`, `Position.sliceTo`: Columns turned into bytes and text.
* `Range`: A start and an end.

## Theorems

* `Position.precedes_iff`: The order, in natural numbers.
* `Position.precedes_refl`, `Position.precedes_trans`: It is a preorder.
* `Position.nowhere_precedes`: It has a least element.
-/

namespace Descent

open Text

/-- A point in a source text. Lines are counted from one, columns from zero
    and in characters. Line zero belongs to `Position.nowhere` alone. -/
structure Position where
  line : UInt64
  column : UInt64
  lineText : String
  deriving DecidableEq, Repr

namespace Position

/-- The position that stands for none. -/
def nowhere : Position := ⟨0, 0, ""⟩

/-- Whether `p` comes before `q` or is the same point. -/
def precedes (p q : Position) : Bool :=
  p.line < q.line || (p.line = q.line && p.column ≤ q.column)

/-- The bytes of the line in front of a column. -/
def offset (p : Position) (column : Nat) : Nat :=
  offsetOf p.lineText column

/-- The text of the line from the position up to a column. -/
def sliceTo (p : Position) (stop : Nat) : String :=
  slice p.lineText p.column.toNat stop

/-- The position as a reader counts it, both numbers from one. -/
def text (p : Position) : String :=
  toString p.line.toNat ++ ":" ++ toString (p.column.toNat + 1)

/-- The structure of a position. -/
def form (p : Position) : Form :=
  .record "Position"
    [("line", .word (toString p.line.toNat)), ("column", .word (toString p.column.toNat)),
      ("line_text", .string p.lineText)] false

/-- The order of positions, in natural numbers. -/
theorem precedes_iff {p q : Position} :
    p.precedes q = true ↔
      p.line.toNat < q.line.toNat ∨
        (p.line.toNat = q.line.toNat ∧ p.column.toNat ≤ q.column.toNat) := by
  simp [precedes, UInt64.lt_iff_toNat_lt, UInt64.le_iff_toNat_le, ← UInt64.toNat_inj]

/-- A position precedes itself. -/
theorem precedes_refl (p : Position) : p.precedes p = true :=
  precedes_iff.2 (Or.inr ⟨rfl, Nat.le_refl _⟩)

/-- The position that stands for none precedes all others. -/
theorem nowhere_precedes (p : Position) : nowhere.precedes p = true := by
  have hline : nowhere.line.toNat = 0 := rfl
  have hcolumn : nowhere.column.toNat = 0 := rfl
  rw [precedes_iff, hline, hcolumn]
  omega

/-- The order of positions is transitive. -/
theorem precedes_trans {p q r : Position} (first : p.precedes q = true)
    (second : q.precedes r = true) : p.precedes r = true := by
  rw [precedes_iff] at *
  omega

end Position

/-- The part of a source text between two positions. -/
structure Range where
  start : Position
  stop : Position
  deriving DecidableEq, Repr

namespace Range

/-- Whether the start does not come after the end. -/
def isOrdered (r : Range) : Bool :=
  r.start.precedes r.stop

/-- Whether both ends are on one line. -/
def isSingleLine (r : Range) : Bool :=
  r.start.line = r.stop.line

/-- The structure of a range. -/
def form (r : Range) : Form :=
  .record "SourceRange" [("start", r.start.form), ("end", r.stop.form)] false

end Range

end Descent
