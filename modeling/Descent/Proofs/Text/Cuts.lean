import Descent.Proofs.Text.Slices

/-!
# Cutting a Line in Bytes

A line lies in memory as bytes, so a program that is asked for a slice of it
walks along the line to find the byte where a column starts, once for each
end, and cuts out what lies between. Three things can go wrong with a cut: the
ends may be out of order, one of them may lie past the end of the line, and
one of them may fall inside a character. `cut?` gives nothing in all three
cases.

Slices as this library defines them go by characters and cannot go wrong. This
module shows that the two ways agree, and thereby that the cut never goes
wrong, whatever the column of the position, the column asked for and the
characters of the line are. The walk is the one place where an induction over
the characters is needed: the characters that were passed are a beginning of
the line, and their sizes add up to the offset.

A position asked for a column at or in front of its own does not walk at all.
It has to be so, since the ends of the cut would be out of order.

## Main definitions

* `startsFrom`: Where the characters of a text start, in bytes.
* `walkedOffset`: The offset of a column, by a walk along the line.
* `cut?`: The part of a text between two offsets, if there is such a part.
* `Position.cutTo?`: The slice of a position, by two walks and a cut.
* `Position.FindsColumn`, `Position.SlicesTo`: What offsets and slices are.

## Theorems

* `walkedOffset_eq`: A walk ends at the offset of the column.
* `cut?_offsetOf`, `cutTo?_eq`: A cut gives the slice.
* `getElem?_slice`: The characters of a slice.
* `slice_eq_empty_iff`: Which slices are empty.
* `slice_prefix`: Slices grow at their end.
* `slices_are_exact`: Offsets and slices are what they should be.
-/

namespace Descent

namespace Text

/-! ## Walking along a line -/

/-- The offsets at which the characters start if the first one starts at
    `start`. -/
def startsFrom (start : Nat) : List Char → List Nat
  | [] => []
  | c :: cs => start :: startsFrom (start + c.utf8Size) cs

/-- Where the character of a column starts, or the end of the line if there is
    no such character. -/
def walkedOffset (line : String) (column : Nat) : Nat :=
  (startsFrom 0 line.toList)[column]?.getD line.utf8ByteSize

theorem length_startsFrom (start : Nat) (cs : List Char) :
    (startsFrom start cs).length = cs.length := by
  induction cs generalizing start with
  | nil => rfl
  | cons c cs ih => rw [startsFrom, List.length_cons, ih, List.length_cons]

/-- A character starts behind all those in front of it. -/
theorem getElem?_startsFrom (start : Nat) (cs : List Char) (i : Nat) (hi : i < cs.length) :
    (startsFrom start cs)[i]? = some (start + byteLength (cs.take i)) := by
  induction cs generalizing start i with
  | nil => cases hi
  | cons c cs ih =>
      cases i with
      | zero => rfl
      | succ k =>
          rw [startsFrom, List.getElem?_cons_succ, ih _ k (Nat.lt_of_succ_lt_succ hi),
            List.take_succ_cons, byteLength, Nat.add_assoc]

/-- A walk ends at the offset of the column. -/
theorem walkedOffset_eq (line : String) (column : Nat) :
    walkedOffset line column = offsetOf line column := by
  unfold walkedOffset
  by_cases hinside : column < line.toList.length
  · rw [getElem?_startsFrom 0 _ _ hinside, Option.getD_some, Nat.zero_add, offsetOf]
  -- Past the last character the walk has found nothing.
  · have hpast : line.length ≤ column := by
      rw [← String.length_toList]
      omega
    have hnone : (startsFrom 0 line.toList)[column]? = none := by
      rw [List.getElem?_eq_none_iff, length_startsFrom]
      omega
    rw [hnone, Option.getD_none, offsetOf_of_length_le line column hpast]

/-! ## Cutting -/

/-- The part of a text between two offsets. There is none if the offsets are
    out of order, or if one of them is past the end or inside a character. -/
def cut? (text : String) (first stop : Nat) : Option String :=
  if h : first ≤ stop ∧ (⟨first⟩ : String.Pos.Raw).IsValid text ∧
      (⟨stop⟩ : String.Pos.Raw).IsValid text then
    some (text.extract ⟨⟨first⟩, h.2.1⟩ ⟨⟨stop⟩, h.2.2⟩)
  else none

/-- Between the offsets of two columns lies the slice. -/
theorem cut?_offsetOf (line : String) (first stop : Nat) (hle : first ≤ stop) :
    cut? line (offsetOf line first) (offsetOf line stop) = some (slice line first stop) := by
  have hsound : offsetOf line first ≤ offsetOf line stop ∧
      (⟨offsetOf line first⟩ : String.Pos.Raw).IsValid line ∧
        (⟨offsetOf line stop⟩ : String.Pos.Raw).IsValid line :=
    ⟨offsetOf_mono line first stop hle, isValid_offsetOf line first, isValid_offsetOf line stop⟩
  unfold cut?
  rw [dif_pos hsound, Option.some.injEq, ← String.toByteArray_inj, String.toByteArray_extract,
    toByteArray_slice]

/-- A letter of two bytes, and ends out of order, inside it and past it. -/
example : cut? "aα" (offsetOf "aα" 1) (offsetOf "aα" 2) = some "α" ∧
    cut? "aα" 1 0 = none ∧ cut? "aα" 1 2 = none ∧ cut? "aα" 1 4 = none := by decide

/-! ## What a slice holds -/

/-- The characters of a slice are those of the line, from its first column
    until in front of the other. -/
theorem getElem?_slice (line : String) (first stop i : Nat) :
    (slice line first stop).toList[i]? =
      if first + i < stop then line.toList[first + i]? else none := by
  rw [slice, String.toList_ofList, List.getElem?_drop, List.getElem?_take]

/-- A slice is empty if there is no column in it, or no character. -/
theorem slice_eq_empty_iff (line : String) (first stop : Nat) :
    slice line first stop = "" ↔ stop ≤ first ∨ line.length ≤ first := by
  rw [← String.toList_eq_nil_iff, slice, String.toList_ofList, List.drop_eq_nil_iff,
    List.length_take, ← String.length_toList]
  omega

/-- A slice that goes further begins with the one that does not. -/
theorem slice_prefix (line : String) (first stop further : Nat) (hle : stop ≤ further) :
    (slice line first stop).toList <+: (slice line first further).toList := by
  by_cases hfirst : first ≤ stop
  · rw [← slice_append_slice hfirst hle, String.toList_append]
    exact List.prefix_append _ _
  -- The shorter slice is empty.
  · rw [slice_eq_empty (by omega)]
    exact List.nil_prefix

end Text

namespace Position

open Text

/-- The slice of a position up to a column, cut out of the bytes of its line. -/
def cutTo? (p : Position) (stop : Nat) : Option String :=
  if stop ≤ p.column.toNat then some ""
  else cut? p.lineText (walkedOffset p.lineText p.column.toNat) (walkedOffset p.lineText stop)

/-- The cut is always sound and gives the slice. -/
theorem cutTo?_eq (p : Position) (stop : Nat) : p.cutTo? stop = some (p.sliceTo stop) := by
  unfold cutTo? sliceTo
  by_cases hback : stop ≤ p.column.toNat
  · rw [if_pos hback, slice_eq_empty hback]
  · rw [if_neg hback, walkedOffset_eq, walkedOffset_eq, cut?_offsetOf _ _ _ (by omega)]

/-- What the offset of a column has to be, as a number of bytes and as a place
    in the line. -/
structure FindsColumn (p : Position) (column : Nat) : Prop where
  /-- A walk along the line finds it. -/
  walked : walkedOffset p.lineText column = p.offset column
  /-- It is the size of the characters in front, as far as there are any. -/
  size : p.offset column =
    (String.ofList (p.lineText.toList.take (min column p.lineText.length))).utf8ByteSize
  boundary : (⟨p.offset column⟩ : String.Pos.Raw).IsValid p.lineText
  inside : p.offset column ≤ p.lineText.utf8ByteSize
  mono : ∀ further, column ≤ further → p.offset column ≤ p.offset further

/-- What the slice of a position up to a column has to be. -/
structure SlicesTo (p : Position) (stop : Nat) : Prop where
  /-- It can be cut out of the bytes of the line. -/
  cut : p.cutTo? stop = some (p.sliceTo stop)
  /-- It holds the characters of the line from column to column. -/
  characters : ∀ i, (p.sliceTo stop).toList[i]? =
    if p.column.toNat + i < stop then p.lineText.toList[p.column.toNat + i]? else none
  empty : p.sliceTo stop = "" ↔ stop ≤ p.column.toNat ∨ p.lineText.length ≤ p.column.toNat
  /-- Slices that meet make up the slice over both. -/
  meets : ∀ q : Position, q.lineText = p.lineText → p.column ≤ q.column →
    q.column.toNat ≤ stop → p.sliceTo q.column.toNat ++ q.sliceTo stop = p.sliceTo stop
  grows : ∀ further, stop ≤ further → (p.sliceTo stop).toList <+: (p.sliceTo further).toList

/-- The size of the characters in front of a column, with a column past the
    end moved back to it. -/
theorem offset_eq_utf8ByteSize (p : Position) (column : Nat) :
    p.offset column =
      (String.ofList (p.lineText.toList.take (min column p.lineText.length))).utf8ByteSize := by
  have htake : p.lineText.toList.take (min column p.lineText.length) =
      p.lineText.toList.take column := by
    rw [← String.length_toList, List.take_eq_take_iff]
    omega
  rw [htake, ← String.size_toByteArray, String.toByteArray_ofList, size_utf8Encode, offset,
    offsetOf]

/-- Of every position and every column, wherever they are: the offset of the
    column is the size of the characters in front of it and falls between two
    of them, and the slice up to the column can be cut out of the line and
    holds the characters between the two columns. Slices that meet add up, and
    a slice grows at its end. -/
theorem slices_are_exact (p : Position) (column : Nat) :
    p.FindsColumn column ∧ p.SlicesTo column := by
  constructor
  · constructor
    · exact walkedOffset_eq p.lineText column
    · exact p.offset_eq_utf8ByteSize column
    · exact isValid_offsetOf p.lineText column
    · exact offsetOf_le_utf8ByteSize p.lineText column
    · exact offsetOf_mono p.lineText column
  · constructor
    · exact p.cutTo?_eq column
    · exact getElem?_slice p.lineText _ column
    · exact slice_eq_empty_iff p.lineText _ column
    · intro q hline hfirst hstop
      rw [sliceTo, sliceTo, sliceTo, hline]
      exact slice_append_slice (UInt64.le_iff_toNat_le.1 hfirst) hstop
    · exact slice_prefix p.lineText _ column

end Position

end Descent
