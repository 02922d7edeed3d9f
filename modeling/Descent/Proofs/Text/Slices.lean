import Descent.Position

/-!
# Slices of a Line

A slice is asked for in columns, and a line is kept in bytes. This module
relates the two, and says what a slice is in terms of characters alone: the
part of the line between its columns, each of them moved back to the end of
the line if it lies past it.

In bytes a slice is the part of the line between the offsets of its columns.
An offset adds up the sizes of whole characters, so both cuts fall between
two of them, whatever the characters are.

## Theorems

* `size_utf8Encode`: The size of encoded characters.
* `isValid_offsetOf`: An offset falls between two characters of its line.
* `offsetOf_of_length_le`: The offset of a column past the end of the line.
* `slice_eq_extract`: A slice in characters.
* `toByteArray_slice`: A slice in bytes.
* `prefix_slice`: What a slice begins with.
-/

namespace Descent

namespace Text

theorem size_utf8Encode (cs : List Char) : cs.utf8Encode.size = byteLength cs := by
  induction cs with
  | nil => rfl
  | cons c cs ih =>
      rw [List.utf8Encode_cons, ByteArray.size_append, ih, List.utf8Encode_singleton,
        List.size_toByteArray, String.length_utf8EncodeChar, byteLength]

theorem offsetOf_mono (line : String) (first stop : Nat) (hle : first ≤ stop) :
    offsetOf line first ≤ offsetOf line stop := by
  -- The characters up to the first column are a part of those up to the other.
  have hsplit : line.toList.take stop =
      line.toList.take first ++ (line.toList.drop first).take (stop - first) := by
    rw [← List.take_add, Nat.add_sub_cancel' hle]
  rw [offsetOf, offsetOf, hsplit, byteLength_append]
  omega

/-- An offset falls between two characters of its line. -/
theorem isValid_offsetOf (line : String) (column : Nat) :
    (⟨offsetOf line column⟩ : String.Pos.Raw).IsValid line := by
  rw [String.Pos.Raw.isValid_iff_exists_append]
  refine ⟨String.ofList (line.toList.take column), String.ofList (line.toList.drop column), ?_, ?_⟩
  · rw [← String.ofList_append, List.take_append_drop, String.ofList_toList]
  · rw [String.Pos.Raw.ext_iff, String.byteIdx_rawEndPos, ← String.size_toByteArray,
      String.toByteArray_ofList, size_utf8Encode, offsetOf]

theorem offsetOf_le_utf8ByteSize (line : String) (column : Nat) :
    offsetOf line column ≤ line.utf8ByteSize :=
  (isValid_offsetOf line column).le_rawEndPos

/-- A column past the end of the line is the end of the line. -/
theorem offsetOf_of_length_le (line : String) (column : Nat) (hpast : line.length ≤ column) :
    offsetOf line column = line.utf8ByteSize := by
  rw [← String.length_toList] at hpast
  rw [offsetOf, List.take_of_length_le hpast, ← size_utf8Encode, ← String.toByteArray_ofList,
    String.ofList_toList, String.size_toByteArray]

theorem extract_between (front middle rest : ByteArray) :
    (front ++ middle ++ rest).extract front.size (front.size + middle.size) = middle := by
  have hfront : front.extract front.size (front.size + middle.size) = ByteArray.empty :=
    ByteArray.extract_eq_empty_iff.2 (Nat.min_le_right ..)
  rw [ByteArray.append_assoc, ByteArray.extract_append, hfront, ByteArray.empty_append,
    Nat.sub_self, Nat.add_sub_cancel_left, ByteArray.extract_append_eq_left rfl]

/-- A slice is the part of the line between its columns, where a column past
    the end of the line stands for the end. -/
theorem slice_eq_extract (line : String) (first stop : Nat) :
    slice line first stop =
      String.ofList (line.toList.extract (min first line.length) (min stop line.length)) := by
  rw [slice, List.extract_eq_take_drop, ← String.length_toList, List.drop_take]
  congr 1
  by_cases hinside : first ≤ line.toList.length
  · rw [Nat.min_eq_left hinside, List.take_eq_take_iff, List.length_drop]
    omega
  -- Past the end there is nothing to take from.
  · rw [List.drop_eq_nil_of_le (by omega), List.drop_eq_nil_of_le (by omega), List.take_nil,
      List.take_nil]

/-- The bytes of a slice are those of the line between the offsets of its
    columns. -/
theorem toByteArray_slice (line : String) (first stop : Nat) :
    (slice line first stop).toByteArray =
      line.toByteArray.extract (offsetOf line first) (offsetOf line stop) := by
  rcases Nat.le_total stop first with hback | hle
  · rw [slice_eq_empty hback]
    refine (ByteArray.extract_eq_empty_iff.2 ?_).symm
    have := offsetOf_mono line stop first hback
    omega
  · have hsplit : line.toList.take stop =
        line.toList.take first ++ (line.toList.take stop).drop first := by
      have hfront : (line.toList.take stop).take first = line.toList.take first := by
        rw [List.take_take, Nat.min_eq_left hle]
      rw [← hfront, List.take_append_drop]
    -- In bytes the line is what stands in front of the slice, the slice and the
    -- rest.
    have hline : line.toByteArray = (line.toList.take first).utf8Encode ++
        ((line.toList.take stop).drop first).utf8Encode ++
          (line.toList.drop stop).utf8Encode := by
      rw [← List.utf8Encode_append, ← hsplit, ← List.utf8Encode_append, List.take_append_drop,
        ← String.toByteArray_ofList, String.ofList_toList]
    have hstop : offsetOf line stop = (line.toList.take first).utf8Encode.size +
        ((line.toList.take stop).drop first).utf8Encode.size := by
      rw [size_utf8Encode, size_utf8Encode, ← byteLength_append, ← hsplit, offsetOf]
    rw [hline, hstop, offsetOf, ← size_utf8Encode, extract_between, slice,
      String.toByteArray_ofList]

/-- A slice begins with what stands at its first column, if there is room for
    it in front of the other. -/
theorem prefix_slice (line : String) (first stop : Nat) (cs : List Char)
    (hstands : cs <+: line.toList.drop first) (hroom : first + cs.length ≤ stop) :
    cs <+: (slice line first stop).toList := by
  rw [slice, String.toList_ofList, List.drop_take]
  exact List.prefix_take_iff.2 ⟨hstands, by omega⟩

end Text

end Descent
