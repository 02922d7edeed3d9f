import Descent.Cursor.Report
import Descent.Proofs.Text.Slices

/-!
# Spans of Tokens

A diagnostic hands the line of its token to a tool, together with the part of
the line to be marked, in bytes. The tool cuts that part out without asking,
so a span that goes past the end of the line, or that splits a character, is
found only when a reader is about to see the message.

Tokens come ready made, and nothing checks that one of them fits its line. Its
text may be longer than the rest of the line or stand somewhere else, and its
column may lie past the end. No such token can spoil the span, because the
text of the token counts for nothing but its number of characters: both ends
of the span are columns of the line, and the offset of a column is a cut
between two characters of the line or the end of it.

## Main definitions

* `Diagnostic.MarksWithin`: What a diagnostic marks is a part of the line that
  it quotes.

## Theorems

* `offset_add_length_span`: The end of a span is the offset of a column.
* `extract_front_span`, `extract_span`: What a span cuts out of its line.
* `slice_of_stands`: A token that stands on its line is cut out of it.
* `spans_stay_on_their_line`: Every span marks a part of its line.
-/

namespace Descent

open Text

/-- What a diagnostic marks is a part of the line that it quotes: the
    characters from the column of the token up to the column behind it, as
    far as the line goes. -/
structure Diagnostic.MarksWithin (d : Diagnostic) (t : Token) : Prop where
  source : d.source = t.start.lineText
  inside : d.span.offset + d.span.length ≤ d.source.utf8ByteSize
  /-- Both ends fall between two characters. -/
  first : (⟨d.span.offset⟩ : String.Pos.Raw).IsValid d.source
  behind : (⟨d.span.offset + d.span.length⟩ : String.Pos.Raw).IsValid d.source
  covers : d.source.toByteArray.extract d.span.offset (d.span.offset + d.span.length) =
    (String.ofList (d.source.toList.extract (min t.start.column.toNat d.source.length)
      (min t.stopColumn d.source.length))).toByteArray
  /-- A token that stands on its line is covered, and nothing else is. -/
  stands : t.value.toList <+: d.source.toList.drop t.start.column.toNat →
    d.source.toByteArray.extract d.span.offset (d.span.offset + d.span.length) =
      t.value.toByteArray
  /-- Of a token past the end of its line nothing is covered. -/
  past : d.source.length ≤ t.start.column.toNat → d.span = ⟨d.source.utf8ByteSize, 0⟩

theorem column_le_stopColumn (t : Token) : t.start.column.toNat ≤ t.stopColumn := by
  unfold Token.stopColumn
  omega

/-- The end of a span is the offset of a column, as its start is. -/
theorem offset_add_length_span (t : Token) :
    t.span.offset + t.span.length = offsetOf t.start.lineText t.stopColumn := by
  have hmono := offsetOf_mono t.start.lineText _ _ (column_le_stopColumn t)
  simp only [Token.span, Position.offset]
  omega

/-- In front of the span is the part of the line up to the column. -/
theorem extract_front_span (t : Token) :
    (slice t.start.lineText 0 t.start.column.toNat).toByteArray =
      t.start.lineText.toByteArray.extract 0 t.span.offset :=
  toByteArray_slice _ 0 _

/-- The span of a token goes from column to column. -/
theorem extract_span (t : Token) :
    (slice t.start.lineText t.start.column.toNat t.stopColumn).toByteArray =
      t.start.lineText.toByteArray.extract t.span.offset (t.span.offset + t.span.length) := by
  rw [toByteArray_slice, offset_add_length_span]
  rfl

theorem slice_of_stands (t : Token)
    (hstands : t.value.toList <+: t.start.lineText.toList.drop t.start.column.toNat) :
    slice t.start.lineText t.start.column.toNat t.stopColumn = t.value := by
  have hroom : t.stopColumn - t.start.column.toNat = t.value.toList.length := by
    unfold Token.stopColumn
    omega
  rw [slice, List.drop_take, hroom, ← List.prefix_iff_eq_take.1 hstands, String.ofList_toList]

/-- Past the end of the line both ends of a span are the end of the line. -/
theorem span_of_length_le (t : Token)
    (hpast : t.start.lineText.length ≤ t.start.column.toNat) :
    t.span = ⟨t.start.lineText.utf8ByteSize, 0⟩ := by
  have hfirst := offsetOf_of_length_le t.start.lineText _ hpast
  have hstop := offsetOf_of_length_le t.start.lineText t.stopColumn
    (Nat.le_trans hpast (column_le_stopColumn t))
  simp only [Token.span, Position.offset, hfirst, hstop, Nat.max_self, Nat.sub_self]

/-- Whatever the token of a diagnostic and the line of the token are, the span
    of the diagnostic is a part of that line and starts and ends between two
    of its characters. It covers what stands between the columns of the token:
    the token, if that stands there, and nothing past the end of the line. -/
theorem spans_stay_on_their_line (d : Diagnostic) (t : Token) (htoken : d.token = some t) :
    d.MarksWithin t := by
  have hsource : d.source = t.start.lineText := by
    simp [Diagnostic.source, Diagnostic.position?, htoken]
  have hspan : d.span = t.span := by simp [Diagnostic.span, htoken]
  constructor
  · exact hsource
  · rw [hsource, hspan, offset_add_length_span]
    exact offsetOf_le_utf8ByteSize _ _
  · rw [hsource, hspan]
    exact isValid_offsetOf _ _
  · rw [hsource, hspan, offset_add_length_span]
    exact isValid_offsetOf _ _
  · rw [hsource, hspan, ← extract_span, slice_eq_extract]
  · intro hstands
    rw [hsource] at hstands
    rw [hsource, hspan, ← extract_span, slice_of_stands t hstands]
  · intro hpast
    rw [hsource] at hpast
    rw [hsource, hspan, span_of_length_le t hpast]

/-- A token of two lines, which is longer than the rest of its line, and one
    that starts past the end of it: the first is covered as far as the line
    goes, and of the second nothing is. -/
theorem spans_stay_on_their_line_of_misfits :
    let line := "né\n語"
    let long : Token := ⟨"é\n語!", .stringLiteral, ⟨1, 1, line⟩⟩
    let far : Token := ⟨"é", .identifier, ⟨1, 9, line⟩⟩
    let diagnostic (t : Token) : Diagnostic :=
      (Cursor.ofFeed (TokenBuffer.ofList [t])).unsupported.result
    (diagnostic long).token = some long ∧ (diagnostic long).MarksWithin long ∧
      (diagnostic long).span = ⟨1, 6⟩ ∧
      (diagnostic far).token = some far ∧ (diagnostic far).span = ⟨7, 0⟩ := by
  intro line long far diagnostic
  have hpast : (diagnostic far).source.length ≤ far.start.column.toNat := by decide
  have hlong : (diagnostic long).MarksWithin long := spans_stay_on_their_line _ long rfl
  exact ⟨rfl, hlong, by decide, rfl, (spans_stay_on_their_line _ far rfl).past hpast⟩

end Descent
