import Descent.Proofs.Text.Lines
import Descent.Snippet

/-!
# Lines of a Snippet

A snippet is made of lines: with a token the quoted line, the carets and the
words behind them, without a token what is left of these. Its parts are free
text, and the marks between them may occur in the parts as well, so nothing
can be said of a snippet by looking for marks. Line breaks are the exception.
Each part of a snippet is on a line of its own, and a part that has no line
break is exactly that line.

The first two lines can be told whatever the words are. Only the quoted line
has to be a line, and a line of a source text always is.

## Main definitions

* `quotedText`, `caretText`: The two lines that show a token, without their
  breaks.

## Theorems

* `linesOf_caretLine`: The carets are on one line, whatever stands behind.
* `linesOf_snippet_some`: The first two lines of a snippet.
-/

namespace Descent

open Text

/-- The number of the line that a token is on. -/
def lineNumber (t : Token) : String :=
  toString t.start.line.toNat

/-- The line of the token behind its number. -/
def quotedText (t : Token) : String :=
  lineNumber t ++ " | " ++ t.start.lineText

/-- What stands in front of the carets: a bar below the other bar, and blanks
    below the line in front of the token. -/
def caretIndent (t : Token) : String :=
  copies (lineNumber t).toList.length ' ' ++ " | " ++ copies (indentWidth t) ' '

/-- The carets below the token. -/
def caretText (t : Token) : String :=
  caretIndent t ++ copies (markWidth t) '^'

theorem isOneLine_quotedText (t : Token) (hline : IsOneLine t.start.lineText) :
    IsOneLine (quotedText t) := by
  have hbar : IsOneLine " | " := by simp [IsOneLine]
  simp only [quotedText, isOneLine_append]
  exact ⟨⟨isOneLine_toString _, hbar⟩, hline⟩

theorem isOneLine_caretText (t : Token) : IsOneLine (caretText t) := by
  have hbar : IsOneLine " | " := by simp [IsOneLine]
  simp only [caretText, caretIndent, isOneLine_append]
  exact ⟨⟨⟨isOneLine_replicate _ ' ' (by simp), hbar⟩, isOneLine_replicate _ ' ' (by simp)⟩,
    isOneLine_replicate _ '^' (by simp)⟩

/-! ## The lines of a snippet -/

theorem quotedLine_eq (t : Token) : quotedLine t = quotedText t ++ "\n" := rfl

theorem caretLine_eq (t : Token) (detail : Option String) :
    caretLine t detail = caretText t ++ detailBehind " " detail ++ "\n" := rfl

/-- The carets are on one line, whatever stands behind them. -/
theorem linesOf_caretLine (t : Token) (detail : Option String) (rest : String) :
    ∃ behind lines, linesOf (caretLine t detail ++ rest) = (caretText t ++ behind) :: lines ∧
      (behind = "" ∨ ∃ more, behind = " " ++ more) := by
  cases detail with
  | none =>
      refine ⟨"", linesOf rest, ?_, Or.inl rfl⟩
      rw [caretLine_eq, detailBehind, String.append_empty,
        linesOf_line _ _ (isOneLine_caretText t)]
  -- The detail may break the line itself, but not in front of its blank.
  | some detail =>
      have hblank : IsOneLine (caretText t ++ " ") :=
        (isOneLine_append _ _).2 ⟨isOneLine_caretText t, by simp [IsOneLine]⟩
      rcases linesOf_append _ (detail ++ "\n" ++ rest) hblank with ⟨more, lines, _, hlines⟩
      refine ⟨" " ++ more, lines, ?_, Or.inr ⟨more, rfl⟩⟩
      rw [caretLine_eq, detailBehind]
      simpa only [String.append_assoc] using hlines

/-- The first line of a snippet is the line of its token, and the carets are
    in the second. -/
theorem linesOf_snippet_some (message : String) (detail : Option String) (t : Token)
    (filename function : String) (hline : IsOneLine t.start.lineText) :
    ∃ behind lines, linesOf (snippet message detail (some t) filename function) =
        quotedText t :: (caretText t ++ behind) :: lines ∧
      (behind = "" ∨ ∃ more, behind = " " ++ more) := by
  rcases linesOf_caretLine t detail (message ++ "\n" ++ "  at " ++ function ++ " (" ++
    filename ++ ":" ++ placeText (some t) ++ ")") with ⟨behind, lines, hcarets, hbehind⟩
  refine ⟨behind, lines, ?_, hbehind⟩
  rw [← hcarets, ← linesOf_line _ _ (isOneLine_quotedText t hline)]
  simp only [snippet, quotedLine_eq, String.append_assoc]

end Descent
