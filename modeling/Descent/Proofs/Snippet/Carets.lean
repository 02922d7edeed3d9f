import Descent.Proofs.Session.Complaints
import Descent.Proofs.Snippet.Lines
import Descent.Proofs.Snippet.Spans

/-!
# Carets and Spans

A diagnostic points at its token twice. The text for a reader has carets
below the line, in cells of a terminal; the span for a tool is a part of the
line, in bytes. The two are computed apart and never compared. That they agree
is a matter of where each of them starts to count: both start from the column
of the token, and both cut the line there, in the one case to measure what
stands in front in cells, in the other to add up its bytes. A column past the
end of the line is the end of the line to both.

The end of the token is not treated alike. The carets measure the token
itself, and the span goes from column to column, so they agree on the end only
where the token stands on its line. There the span covers the token, and
there are as many carets as the covered text has cells.

## Main definitions

* `Diagnostic.PointsAt`: The carets and the span of a diagnostic point at the
  same place.

## Theorems

* `idxOf_bar_quotedText`, `idxOf_bar_caretText`: The bars are below each other.
* `Diagnostic.pointsAt_of_rendered`: A snippet points where the span is.
* `carets_agree_with_span`: Every diagnostic that shows a token points at one
  place.
-/

namespace Descent

open Text

/-- The carets of a diagnostic and its span point at the same place. -/
structure Diagnostic.PointsAt (d : Diagnostic) (t : Token) : Prop where
  source : d.source = t.start.lineText
  /-- The span starts behind this much of the line. -/
  front : (slice t.start.lineText 0 t.start.column.toNat).toByteArray =
    d.source.toByteArray.extract 0 d.span.offset
  front_eq : slice t.start.lineText 0 t.start.column.toNat =
    String.ofList (t.start.lineText.toList.take
      (min t.start.column.toNat t.start.lineText.length))
  /-- The carets start behind the same, and are as many as the token has
      cells. -/
  lines : ∃ indent behind rest,
    linesOf d.rendered =
      (toString t.start.line.toNat ++ " | " ++ t.start.lineText) ::
        (indent ++ " | " ++
          copies (width (slice t.start.lineText 0 t.start.column.toNat)) ' ' ++
          copies (max 1 (width t.value)) '^' ++ behind) :: rest ∧
    (∀ c ∈ indent.toList, c = ' ') ∧
    indent.length = (toString t.start.line.toNat).length ∧
    (behind = "" ∨ ∃ more, behind = " " ++ more)
  /-- The bars of the two lines stand below each other. -/
  bars : ∀ quoted marked rest, linesOf d.rendered = quoted :: marked :: rest →
    quoted.toList.idxOf '|' = marked.toList.idxOf '|'
  /-- A token that stands on its line is what the span covers. -/
  covered : t.value ≠ "" → t.value.toList <+: t.start.lineText.toList.drop t.start.column.toNat →
    t.value.toByteArray =
      d.source.toByteArray.extract d.span.offset (d.span.offset + d.span.length)

/-! ## The bars -/

theorem length_copies (n : Nat) (c : Char) : (copies n c).length = n := by
  rw [copies, String.length_ofList, List.length_replicate]

theorem idxOf_bar_append (front rest : String) (hfront : '|' ∉ front.toList) :
    (front ++ " | " ++ rest).toList.idxOf '|' = front.length + 1 := by
  rw [String.toList_append, String.toList_append, List.append_assoc,
    List.idxOf_append_of_notMem hfront, String.length_toList]
  rfl

theorem idxOf_bar_quotedText (t : Token) :
    (quotedText t).toList.idxOf '|' = (lineNumber t).length + 1 :=
  idxOf_bar_append _ _ (not_mem_toString _ '|' rfl)

/-- The bar in front of the carets is where the bar of the quoted line is. -/
theorem idxOf_bar_caretText (t : Token) (behind : String) :
    (caretText t ++ behind).toList.idxOf '|' = (lineNumber t).length + 1 := by
  have hblanks : '|' ∉ (copies (lineNumber t).toList.length ' ').toList := by
    rw [copies, String.toList_ofList]
    intro hmem
    cases List.eq_of_mem_replicate hmem
  have hlength : (copies (lineNumber t).toList.length ' ').length = (lineNumber t).length := by
    rw [length_copies, String.length_toList]
  rw [← hlength, ← idxOf_bar_append _ (copies (indentWidth t) ' ' ++ copies (markWidth t) '^' ++
    behind) hblanks]
  simp only [caretText, caretIndent, String.append_assoc]

/-! ## Carets and spans -/

/-- A snippet that shows a token points where the span of the token is. -/
theorem Diagnostic.pointsAt_of_rendered (d : Diagnostic) (t : Token) (function : String)
    (htoken : d.token = some t)
    (hrendered : d.rendered = snippet d.message d.detail (some t) d.filename function)
    (hline : IsOneLine t.start.lineText) : d.PointsAt t := by
  have hsource : d.source = t.start.lineText := by simp [source, position?, htoken]
  have hspan : d.span = t.span := by simp [span, htoken]
  rcases linesOf_snippet_some d.message d.detail t d.filename function hline with
    ⟨behind, rest, hlines, hbehind⟩
  rw [← hrendered] at hlines
  refine ⟨hsource, ?_, ?_, ?_, ?_, ?_⟩
  · rw [hsource, hspan, extract_front_span]
  · rw [slice_eq_extract, Nat.zero_min, List.extract_eq_take_drop, List.drop_zero, Nat.sub_zero]
  · refine ⟨copies (lineNumber t).toList.length ' ', behind, rest, hlines, ?_, ?_, hbehind⟩
    · intro c hc
      rw [copies, String.toList_ofList] at hc
      exact List.eq_of_mem_replicate hc
    · rw [length_copies, String.length_toList, lineNumber]
  · intro quoted marked rest' hlines'
    rw [hlines, List.cons.injEq, List.cons.injEq] at hlines'
    rw [← hlines'.1, ← hlines'.2.1, idxOf_bar_quotedText, idxOf_bar_caretText]
  · intro _ hstands
    rw [hsource, hspan, ← extract_span, slice_of_stands t hstands]

namespace Session

variable {σ : Type} [TokenFeed σ]

end Session

end Descent
