import Descent.Proofs.Text.Lines
import Descent.Text.Quoted

/-!
# What Quoting Lets Recover

A text between quotes can be told from what stands between them, and so can
the place where it ends, whatever stands behind the closing quote. It need not
be said how a reader would do this. It is enough that no escaped character is
the beginning of another: then two quoted texts that look alike agree from
left to right, character by character, and as no escaped character begins with
a quote they end together.

Three shapes have to be told apart. A character stands for itself unless it is
a backslash, so the first character says whether there is an escape. The
second says which: `u` is none of the letters that stand for a character, and
behind it the digits of a code point end at the closing brace.

A text between quotes is on one line, even if it has many of its own.

## Main definitions

* `unescaped`: The character that a letter behind a backslash stands for.

## Theorems

* `escape_cases`: The three shapes of an escaped character.
* `escape_append_inj`: No escaped character is the beginning of another.
* `quoted_append_inj`: A quoted text tells its value and where it ends.
* `isOneLine_quoted`: A quoted text is on one line.
-/

namespace Descent

namespace Text

/-- The character that a letter behind a backslash stands for. -/
def unescaped : Char → Option Char
  | '0' => some '\x00'
  | 't' => some '\t'
  | 'r' => some '\r'
  | 'n' => some '\n'
  | '"' => some '"'
  | '\\' => some '\\'
  | _ => none

/-- A character is escaped by a letter or by its code point, or it stands for
    itself. -/
theorem escape_cases (c : Char) :
    (∃ letter, escape c = ['\\', letter] ∧ unescaped letter = some c) ∨
      escape c = codePoint c ∨
      (escape c = [c] ∧ c ≠ '\\' ∧ c ≠ '"' ∧ c ≠ '\n') := by
  unfold escape
  by_cases hnul : c = '\x00'
  · exact Or.inl ⟨'0', by rw [if_pos hnul], by rw [hnul]; rfl⟩
  by_cases htab : c = '\t'
  · exact Or.inl ⟨'t', by rw [if_neg hnul, if_pos htab], by rw [htab]; rfl⟩
  by_cases hreturn : c = '\r'
  · exact Or.inl ⟨'r', by rw [if_neg hnul, if_neg htab, if_pos hreturn], by rw [hreturn]; rfl⟩
  by_cases hbreak : c = '\n'
  · refine Or.inl ⟨'n', ?_, by rw [hbreak]; rfl⟩
    rw [if_neg hnul, if_neg htab, if_neg hreturn, if_pos hbreak]
  by_cases hquote : c = '"'
  · refine Or.inl ⟨'"', ?_, by rw [hquote]; rfl⟩
    rw [if_neg hnul, if_neg htab, if_neg hreturn, if_neg hbreak, if_pos hquote]
  by_cases hslash : c = '\\'
  · refine Or.inl ⟨'\\', ?_, by rw [hslash]; rfl⟩
    rw [if_neg hnul, if_neg htab, if_neg hreturn, if_neg hbreak, if_neg hquote, if_pos hslash]
  -- None of the letters: the shape of the character decides.
  rw [if_neg hnul, if_neg htab, if_neg hreturn, if_neg hbreak, if_neg hquote, if_neg hslash]
  by_cases hshapeless : (isExtending c || !isPrintable c) = true
  · exact Or.inr (Or.inl (if_pos hshapeless))
  · exact Or.inr (Or.inr ⟨if_neg hshapeless, hslash, hquote, hbreak⟩)

/-! ## Code points -/

theorem digitChar_inj (m n : Nat) (hm : m < 16) (hn : n < 16)
    (hsame : m.digitChar = n.digitChar) : m = n := by
  have hall : ∀ i j : Fin 16, i.val.digitChar = j.val.digitChar → i = j := by decide
  exact Fin.mk.inj (hall ⟨m, hm⟩ ⟨n, hn⟩ hsame)

/-- Hexadecimal digits tell the number. The induction takes off the last digit
    of both numbers; one number alone cannot be down to a single digit. -/
theorem eq_of_toDigits_eq (m n : Nat) (hsame : Nat.toDigits 16 m = Nat.toDigits 16 n) :
    m = n := by
  induction m using Nat.strongRecOn generalizing n with
  | ind m ih =>
      by_cases hm : m < 16
      · by_cases hn : n < 16
        · rw [Nat.toDigits_of_lt_base hm, Nat.toDigits_of_lt_base hn, List.singleton_inj] at hsame
          exact digitChar_inj m n hm hn hsame
        · rw [Nat.toDigits_of_lt_base hm, Nat.toDigits_of_base_le (by omega) (by omega),
            ← List.nil_append [_], List.append_singleton_inj] at hsame
          exact absurd hsame.1.symm Nat.toDigits_ne_nil
      · rw [Nat.toDigits_of_base_le (by omega) (by omega)] at hsame
        by_cases hn : n < 16
        · rw [Nat.toDigits_of_lt_base hn, ← List.nil_append [n.digitChar],
            List.append_singleton_inj] at hsame
          exact absurd hsame.1 Nat.toDigits_ne_nil
        · rw [Nat.toDigits_of_base_le (n := n) (by omega) (by omega),
            List.append_singleton_inj] at hsame
          have hfront := ih (m / 16) (by omega) (n / 16) hsame.1
          have hlast := digitChar_inj (m % 16) (n % 16) (by omega) (by omega) hsame.2
          omega

theorem exists_of_mem_toDigits (n : Nat) (c : Char) (hc : c ∈ Nat.toDigits 16 n) :
    ∃ d, d < 16 ∧ c = d.digitChar := by
  induction n using Nat.strongRecOn with
  | ind n ih =>
      by_cases hn : n < 16
      · rw [Nat.toDigits_of_lt_base hn, List.mem_singleton] at hc
        exact ⟨n, hn, hc⟩
      · rw [Nat.toDigits_of_base_le (by omega) (by omega), List.mem_append,
          List.mem_singleton] at hc
        rcases hc with hfront | hlast
        · exact ih (n / 16) (by omega) hfront
        · exact ⟨n % 16, by omega, hlast⟩

theorem ne_of_mem_toDigits (n : Nat) (c : Char) (hc : c ∈ Nat.toDigits 16 n) :
    c ≠ '\x7d' ∧ c ≠ '\n' := by
  have hall : ∀ d : Fin 16, d.val.digitChar ≠ '\x7d' ∧ d.val.digitChar ≠ '\n' := by decide
  rcases exists_of_mem_toDigits n c hc with ⟨d, hd, rfl⟩
  exact hall ⟨d, hd⟩

/-- The digits of a code point end at its brace. -/
theorem codePoint_append_inj (c c' : Char) (rest rest' : List Char)
    (hsame : codePoint c ++ rest = codePoint c' ++ rest') : c = c' ∧ rest = rest' := by
  simp only [codePoint, List.append_assoc, List.cons_append, List.nil_append, List.cons.injEq,
    true_and] at hsame
  have hdigits (c : Char) : ∀ d ∈ Nat.toDigits 16 c.toNat, (d != '\x7d') = true := by
    intro d hd
    simpa using (ne_of_mem_toDigits _ d hd).1
  rcases split_at_run (· != '\x7d') _ _ _ _ (hdigits c) (hdigits c') (by simp) (by simp)
    hsame with ⟨hcode, hbehind⟩
  rw [List.cons_inj_right] at hbehind
  exact ⟨Char.toNat_inj.1 (eq_of_toDigits_eq _ _ hcode), hbehind⟩

/-! ## Escaped characters -/

/-- No escaped character begins with a quote. -/
theorem exists_head_escape (c : Char) : ∃ head more, escape c = head :: more ∧ head ≠ '"' := by
  rcases escape_cases c with ⟨letter, hletter, _⟩ | hcode | ⟨hplain, _, hquote, _⟩
  · exact ⟨'\\', [letter], hletter, by decide⟩
  · exact ⟨'\\', _, hcode, by decide⟩
  · exact ⟨c, [], hplain, hquote⟩

theorem not_mem_escape (c : Char) : '\n' ∉ escape c := by
  rcases escape_cases c with ⟨letter, hletter, hstands⟩ | hcode | ⟨hplain, _, _, hbreak⟩
  · rw [hletter]
    intro hmem
    have hsame : '\n' = letter := by simpa using hmem
    rw [← hsame] at hstands
    cases hstands
  · rw [hcode]
    intro hmem
    have hdigit : '\n' ∈ Nat.toDigits 16 c.toNat := by simpa [codePoint] using hmem
    exact (ne_of_mem_toDigits _ _ hdigit).2 rfl
  · rw [hplain, List.mem_singleton]
    exact Ne.symm hbreak

/-- No escaped character is the beginning of another. -/
theorem escape_append_inj (c c' : Char) (rest rest' : List Char)
    (hsame : escape c ++ rest = escape c' ++ rest') : c = c' ∧ rest = rest' := by
  rcases escape_cases c with ⟨letter, hform, hstands⟩ | hform | ⟨hform, hplain, _, _⟩
  · rcases escape_cases c' with ⟨letter', hform', hstands'⟩ | hform' | ⟨hform', hplain', _, _⟩
    · rw [hform, hform'] at hsame
      simp only [List.cons_append, List.nil_append, List.cons.injEq, true_and] at hsame
      rw [hsame.1, hstands', Option.some.injEq] at hstands
      exact ⟨hstands.symm, hsame.2⟩
    -- The letter of a code point stands for no character.
    · rw [hform, hform'] at hsame
      simp only [codePoint, List.cons_append, List.nil_append, List.cons.injEq, true_and] at hsame
      rw [hsame.1] at hstands
      cases hstands
    · rw [hform, hform'] at hsame
      simp only [List.cons_append, List.nil_append, List.cons.injEq] at hsame
      exact absurd hsame.1.symm hplain'
  · rcases escape_cases c' with ⟨letter', hform', hstands'⟩ | hform' | ⟨hform', hplain', _, _⟩
    · rw [hform, hform'] at hsame
      simp only [codePoint, List.cons_append, List.nil_append, List.cons.injEq, true_and] at hsame
      rw [← hsame.1] at hstands'
      cases hstands'
    · rw [hform, hform'] at hsame
      exact codePoint_append_inj c c' rest rest' hsame
    · rw [hform, hform'] at hsame
      simp only [codePoint, List.cons_append, List.nil_append, List.cons.injEq] at hsame
      exact absurd hsame.1.symm hplain'
  · rcases escape_cases c' with ⟨letter', hform', hstands'⟩ | hform' | ⟨hform', hplain', _, _⟩
    · rw [hform, hform'] at hsame
      simp only [List.cons_append, List.nil_append, List.cons.injEq] at hsame
      exact absurd hsame.1 hplain
    · rw [hform, hform'] at hsame
      simp only [codePoint, List.cons_append, List.nil_append, List.cons.injEq] at hsame
      exact absurd hsame.1 hplain
    · rw [hform, hform'] at hsame
      simpa only [List.cons_append, List.nil_append, List.cons.injEq] using hsame

/-! ## Quoted texts -/

/-- Escaped characters in front of a quote tell which they are and where the
    quote is. -/
theorem flatMap_escape_inj (cs cs' rest rest' : List Char)
    (hsame : cs.flatMap escape ++ '"' :: rest = cs'.flatMap escape ++ '"' :: rest') :
    cs = cs' ∧ rest = rest' := by
  induction cs generalizing cs' with
  | nil =>
      cases cs' with
      | nil => simpa using hsame
      | cons c' cs' =>
          rcases exists_head_escape c' with ⟨head, more, hform, hquote⟩
          simp only [List.flatMap_cons, List.flatMap_nil, hform, List.cons_append,
            List.nil_append, List.cons.injEq] at hsame
          exact absurd hsame.1.symm hquote
  | cons c cs ih =>
      cases cs' with
      | nil =>
          rcases exists_head_escape c with ⟨head, more, hform, hquote⟩
          simp only [List.flatMap_cons, List.flatMap_nil, hform, List.cons_append,
            List.nil_append, List.cons.injEq] at hsame
          exact absurd hsame.1 hquote
      | cons c' cs' =>
          rw [List.flatMap_cons, List.flatMap_cons, List.append_assoc, List.append_assoc] at hsame
          rcases escape_append_inj c c' _ _ hsame with ⟨rfl, hbehind⟩
          rcases ih cs' hbehind with ⟨rfl, hrest⟩
          exact ⟨rfl, hrest⟩

/-- A quoted text tells its value and where it ends. -/
theorem quoted_append_inj (s s' rest rest' : String)
    (hsame : quoted s ++ rest = quoted s' ++ rest') : s = s' ∧ rest = rest' := by
  have hchars := congrArg String.toList hsame
  simp only [quoted, String.toList_append, String.toList_ofList, List.cons_append,
    List.append_assoc, List.nil_append, List.cons.injEq, true_and] at hchars
  rcases flatMap_escape_inj _ _ _ _ hchars with ⟨hvalue, hrest⟩
  exact ⟨String.toList_inj.1 hvalue, String.toList_inj.1 hrest⟩

/-- A quoted text is on one line. -/
theorem isOneLine_quoted (s : String) : IsOneLine (quoted s) := by
  unfold IsOneLine quoted
  simp [not_mem_escape]

end Text

end Descent
