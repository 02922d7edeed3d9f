/-!
# Ranges of Code Points

A property of characters, such as "can be printed", is a table: the inclusive
ranges of code points that have it, in increasing order. The modules beside
this one hold one table each; this one says how a table is read.

## Main definitions

* `CodeRanges`: A table of inclusive ranges.
* `CodeRanges.has`: Whether a character falls into one of the ranges.
* `CodeRanges.inOrder`: Whether the ranges are non-empty, increasing and apart.

## Theorems

* `CodeRanges.has_iff`: Membership, said with the range that holds it.
-/

namespace Descent.Text

/-- A table of inclusive ranges of code points. -/
abbrev CodeRanges := List (Nat × Nat)

namespace CodeRanges

/-- Whether the character falls into one of the ranges. -/
def has (table : CodeRanges) (c : Char) : Bool :=
  table.any fun range => range.1 ≤ c.toNat && c.toNat ≤ range.2

/-- Whether every range is non-empty and starts past the end of the one
    before it, with a gap between them. `floor` is the first code point the
    table may still use. -/
def inOrder : (floor : Nat) → CodeRanges → Bool
  | _, [] => true
  | floor, (low, high) :: rest => floor ≤ low && low ≤ high && inOrder (high + 2) rest

/-- A character is in a table exactly when one of its ranges spans it. -/
theorem has_iff {table : CodeRanges} {c : Char} :
    table.has c = true ↔ ∃ range ∈ table, range.1 ≤ c.toNat ∧ c.toNat ≤ range.2 := by
  simp [has]

end CodeRanges

end Descent.Text
