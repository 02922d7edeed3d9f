import Descent.Proofs.Text.Lines
import Descent.Token

/-!
# What the Text of a Token Lets Recover

In a message a token is written as its kind, its value between quotes and its
place, and the value is written as it is. It may be empty, break a line, hold
quotes, or hold something that looks like the closing quote with a place
behind it: a token with the value `a' at 1:2` is written `'a' at 1:2' at 3:4`.
Whoever looks for the closing quote from the left will find the wrong one.

The parts come apart without a look at the value. The kind is a word of
letters, so it ends at the first blank, whatever follows. The place is digits,
a colon and digits, so read from the right it ends at the last blank, whatever
stands in front. What is left between the two is the value and its quotes, and
of these there are always as many characters.

The line that a position quotes is not written, so it is the one thing that
cannot be recovered.

## Theorems

* `append_text_inj`: A position behind a text can be told from it.
* `text_tells_token`: The text of a token tells the token.
-/

namespace Descent

/-- A position behind a text can be told from it, and so can the text, as long
    as the text does not end in a digit. -/
theorem Position.append_text_inj (s s' : String) (p p' : Position) (hs : EndsInNoDigit s)
    (hs' : EndsInNoDigit s') (hsame : s ++ p.text = s' ++ p'.text) :
    s = s' ∧ p.line = p'.line ∧ p.column = p'.column := by
  simp only [Position.text, ← String.append_assoc] at hsame
  -- The column is behind the colon, and the line behind the text.
  rcases append_toString_inj _ _ _ _ (endsInNoDigit_append_colon _)
    (endsInNoDigit_append_colon _) hsame with ⟨hfront, hcolumn⟩
  rcases append_toString_inj _ _ _ _ hs hs' ((String.append_left_inj ":").1 hfront) with
    ⟨htext, hline⟩
  exact ⟨htext, UInt64.toNat_inj.1 hline, UInt64.toNat_inj.1 (by omega)⟩

namespace TokenKind

theorem isAlpha_of_mem_name (kind : TokenKind) : ∀ c ∈ kind.name.toList, c.isAlpha = true :=
  List.all_eq_true.1 (by cases kind <;> decide)

theorem name_inj (kind kind' : TokenKind) (hsame : kind.name = kind'.name) : kind = kind' := by
  have hfound := kind.ofName?_name
  rw [hsame, kind'.ofName?_name, Option.some.injEq] at hfound
  exact hfound.symm

/-- A kind in front of a quote can be told from what follows, and so can what
    stands behind the quote. -/
theorem name_append_inj (kind kind' : TokenKind) (rest rest' : String)
    (hsame : kind.name ++ (" '" ++ rest) = kind'.name ++ (" '" ++ rest')) :
    kind = kind' ∧ rest = rest' := by
  have hchars := congrArg String.toList hsame
  simp only [String.toList_append] at hchars
  -- The letters of the kind end in front of the blank.
  rcases split_at_run Char.isAlpha _ _ _ _ (isAlpha_of_mem_name kind) (isAlpha_of_mem_name kind')
    (by simp) (by simp) hchars with ⟨hname, hbehind⟩
  exact ⟨name_inj kind kind' (String.toList_inj.1 hname),
    String.toList_inj.1 (List.append_cancel_left hbehind)⟩

end TokenKind

namespace Token

/-- Two tokens have the same text exactly if they agree in their kind, their
    value and their place, whatever their values hold. -/
theorem text_tells_token (t t' : Token) :
    t.text = t'.text ↔
      t.kind = t'.kind ∧ t.value = t'.value ∧ t.start.line = t'.start.line ∧
        t.start.column = t'.start.column := by
  constructor
  · intro hsame
    simp only [text, String.append_assoc] at hsame
    rcases TokenKind.name_append_inj _ _ _ _ hsame with ⟨hkind, hrest⟩
    have hquote (value : String) : EndsInNoDigit (value ++ "' at ") := by
      simp [EndsInNoDigit]
    rw [← String.append_assoc, ← String.append_assoc] at hrest
    rcases Position.append_text_inj _ _ _ _ (hquote _) (hquote _) hrest with
      ⟨hquoted, hline, hcolumn⟩
    -- The same five characters close both quotes.
    have hvalue : t.value = t'.value := (String.append_left_inj "' at ").1 hquoted
    exact ⟨hkind, hvalue, hline, hcolumn⟩
  · rintro ⟨hkind, hvalue, hline, hcolumn⟩
    rw [text, text, Position.text, Position.text, hkind, hvalue, hline, hcolumn]

end Token

end Descent
