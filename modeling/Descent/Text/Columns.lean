/-!
# Columns of a Line

A column counts characters, never bytes. A column past the end of a line
means its end. Bytes come in only where a line is handed to a tool that
counts them, and an offset in bytes always falls between two characters.

## Main definitions

* `byteLength`: The size of characters in UTF-8.
* `offsetOf`: The byte offset of a column.
* `slice`: The characters between two columns.

## Theorems

* `byteLength_append`: The bytes of two texts add up.
* `slice_eq_empty`: A slice that ends where it starts, or before, is empty.
* `slice_append_slice`: Slices that meet make up the slice over both.
-/

namespace Descent.Text

/-- The bytes that the characters take in UTF-8. -/
def byteLength : List Char → Nat
  | [] => 0
  | c :: cs => c.utf8Size + byteLength cs

/-- The bytes of two texts add up. -/
@[simp]
theorem byteLength_append (first second : List Char) :
    byteLength (first ++ second) = byteLength first + byteLength second := by
  induction first with
  | nil => simp [byteLength]
  | cons c cs ih => simp [byteLength, ih, Nat.add_assoc]

/-- The byte offset of a column of the line. -/
def offsetOf (line : String) (column : Nat) : Nat :=
  byteLength (line.toList.take column)

/-- The characters of the line from the column `first` up to, but without,
    the column `stop`. -/
def slice (line : String) (first stop : Nat) : String :=
  String.ofList ((line.toList.take stop).drop first)

/-- A slice that ends where it starts, or before, is empty. -/
theorem slice_eq_empty {line : String} {first stop : Nat} (stop_le : stop ≤ first) :
    slice line first stop = "" := by
  have short : (line.toList.take stop).length ≤ first :=
    Nat.le_trans (List.length_take_le ..) stop_le
  simp [slice, List.drop_eq_nil_of_le short]

/-- Slices that meet make up the slice over both. -/
theorem slice_append_slice {line : String} {first middle stop : Nat} (first_le : first ≤ middle)
    (middle_le : middle ≤ stop) :
    slice line first middle ++ slice line middle stop = slice line first stop := by
  simp only [slice, ← String.ofList_append]
  congr 1
  rw [← List.take_append_drop middle (line.toList.take stop), List.take_take,
    Nat.min_eq_left middle_le]
  generalize line.toList = cs
  by_cases short : cs.length ≤ middle
  · -- The line ends before the second slice begins.
    have nothing : (cs.take stop).drop middle = [] :=
      List.drop_eq_nil_of_le (Nat.le_trans (List.length_take_le' ..) short)
    simp [nothing]
  · -- The first slice is cut at `middle`, inside the line.
    have long : first ≤ (cs.take middle).length := by
      rw [List.length_take]
      omega
    have : ((cs.take middle) ++ (cs.take stop).drop middle).drop middle =
        (cs.take stop).drop middle := by
      rw [List.drop_append_of_le_length (by rw [List.length_take]; omega)]
      simp
    rw [List.drop_append_of_le_length long, this]

end Descent.Text
