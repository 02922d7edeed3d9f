import Descent.Proofs.Json.Syntax

/-!
# Reading Strings as They Are Spelled

Whatever is spelled between the quotes of a string, reading it gives what its
pieces stand for and stops behind the last quote. If the pieces stand for
nothing, because half of a surrogate pair stands alone, reading fails, and it
fails in the same way whatever follows the string: the closing quote is
always there to break off what the half would need. A string that is skipped
is only followed to its end, so there it makes no difference.

A string that is written is one spelling of its text among others.

## Main definitions

* `Literal.ofString`: The spelling that a string is written in.

## Theorems

* `stringBody_inside`: What is made of a string that is kept.
* `pastString_inside`: A string that is skipped.
* `chars_ofString`, `reading_ofString`: A written string and its reading.
-/

namespace Descent.Json

open Reader

namespace Literal

variable (rest : List Char)

theorem inside_cons (p : Piece) (s : Literal) :
    inside (p :: s) ++ '"' :: rest = p.chars ++ (inside s ++ '"' :: rest) := by
  rw [inside, List.flatMap_cons, List.append_assoc]
  rfl

theorem map_prepend (c : Char) (outcome : Except Fault (List Char)) :
    prepend c <$> (outcome.map (·, rest)) = ((c :: ·) <$> outcome).map (·, rest) := by
  cases outcome with
  | ok cs => rfl
  | error fault => rfl

theorem ne_u_of_isEscape (c : Char) (hc : (escaped? c).isSome = true) : c ≠ 'u' := by
  rintro rfl
  cases hc

theorem stringChars_letter (c d : Char) (cs : List Char) (hc : escaped? c = some d) :
    stringChars ('\\' :: c :: cs) = prepend d <$> stringChars cs := by
  have hu : c ≠ 'u' := ne_u_of_isEscape c (by rw [hc]; rfl)
  rw [stringChars]
  · rw [hc]
  all_goals simp_all

/-- Behind half of a pair there is a quote or the start of a piece, and if the
    piece is no quad the pair is broken off. -/
theorem brokenPair_inside (s : Literal)
    (hs : ∀ a b c d isHex more, s ≠ .quad a b c d isHex :: more) :
    brokenPair (s.inside ++ '"' :: rest) = .pairCutOff := by
  cases s with
  | nil => rfl
  | cons p more =>
      rw [inside_cons]
      cases p with
      | plain c isPlain =>
          rw [Piece.chars, List.singleton_append, brokenPair]
          all_goals simp_all
      | letter c isEscape =>
          have hu := ne_u_of_isEscape c isEscape
          rw [Piece.chars, List.cons_append, List.singleton_append, brokenPair]
          all_goals simp_all
      | quad a b c d isHex => exact absurd rfl (hs a b c d isHex more)

/-- Reading a string gives what its pieces stand for. -/
theorem stringChars_inside (s : Literal) :
    stringChars (s.inside ++ '"' :: rest) = s.resolve.map (·, rest) := by
  fun_induction resolve s with
  | case1 => rfl
  | case2 c isPlain more ih =>
      rw [inside_cons, Piece.chars, List.singleton_append,
        stringChars_plain c _ isPlain.1 isPlain.2.1 isPlain.2.2, ih, map_prepend]
  | case3 c isEscape more ih =>
      have hc : escaped? c = some ((escaped? c).get isEscape) := (Option.some_get _).symm
      rw [inside_cons, Piece.chars, List.cons_append, List.singleton_append,
        stringChars_letter c _ _ hc, ih, map_prepend]
  -- The second half of a pair in the place of a first one.
  | case4 a b c d isHex more n hlow =>
      have hn : hexQuad? a b c d = some n := (Option.some_get isHex).symm
      rw [inside_cons]
      simp only [Piece.chars, List.cons_append, List.nil_append, stringChars, hn, hlow, if_true]
      rfl
  | case5 a b c d isHex n hlow hhigh a' b' c' d' isHex' more low hpair ih =>
      have hn : hexQuad? a b c d = some n := (Option.some_get isHex).symm
      have hn' : hexQuad? a' b' c' d' = some low := (Option.some_get isHex').symm
      rw [inside_cons, inside_cons]
      simp only [Piece.chars, List.cons_append, List.nil_append, stringChars, hn, hn', hlow,
        hhigh, hpair, if_true, Bool.false_eq_true, if_false, ih, map_prepend]
  | case6 a b c d isHex n hlow hhigh a' b' c' d' isHex' more low hpair =>
      have hn : hexQuad? a b c d = some n := (Option.some_get isHex).symm
      have hn' : hexQuad? a' b' c' d' = some low := (Option.some_get isHex').symm
      rw [inside_cons, inside_cons]
      simp only [Piece.chars, List.cons_append, List.nil_append, stringChars, hn, hn', hlow,
        hhigh, hpair, if_true, Bool.false_eq_true, if_false]
      rfl
  | case7 a b c d isHex more n hlow hhigh hmore =>
      have hn : hexQuad? a b c d = some n := (Option.some_get isHex).symm
      have hbroken := brokenPair_inside rest more (fun a b c d isHex rest hsame =>
        hmore a b c d isHex rest hsame)
      rw [inside_cons]
      simp only [Piece.chars, List.cons_append, List.nil_append, stringChars, hn, hlow, hhigh,
        if_true, Bool.false_eq_true, if_false]
      split
      -- A quad behind the half would have its pair broken in another way.
      · next hquad =>
          rw [hquad, brokenPair, shortEscape] at hbroken
          split at hbroken <;> cases hbroken
      · rw [hbroken]
        rfl
  | case8 a b c d isHex more n hlow hhigh ih =>
      have hn : hexQuad? a b c d = some n := (Option.some_get isHex).symm
      rw [inside_cons]
      simp only [Piece.chars, List.cons_append, List.nil_append, stringChars, hn, hlow, hhigh,
        Bool.false_eq_true, if_false, ih, map_prepend]

/-- The inside of a string that is kept. -/
theorem stringBody_inside (s : Literal) :
    stringBody (s.inside ++ '"' :: rest) = s.reading.map (·, rest) := by
  rw [stringBody, stringChars_inside, reading]
  cases s.resolve with
  | ok cs => rfl
  | error fault => rfl

theorem key_chars (s : Literal) : key (s.chars ++ rest) = s.reading.map (·, rest) := by
  rw [chars, List.cons_append, List.append_assoc]
  exact stringBody_inside rest s

/-! ## Strings that are skipped -/

/-- A string that is skipped is followed to its last quote, whatever its
    pieces stand for. -/
theorem pastString_inside (s : Literal) : pastString (s.inside ++ '"' :: rest) = .ok rest := by
  induction s with
  | nil => rfl
  | cons p more ih =>
      rw [inside_cons]
      cases p with
      | plain c isPlain =>
          rcases isPlain with ⟨hquote, hslash, hcontrol⟩
          rw [Piece.chars, List.singleton_append, pastString]
          · rw [if_neg hcontrol, ih]
          all_goals simp_all
      | letter c isEscape =>
          have hu := ne_u_of_isEscape c isEscape
          rw [Piece.chars, List.cons_append, List.singleton_append, pastString]
          · rw [if_pos isEscape, ih]
          all_goals simp_all
      | quad a b c d isHex =>
          simp only [Piece.chars, List.cons_append, List.nil_append, pastString, isHex, if_true, ih]

theorem skipString_inside (s : Literal) :
    skipString (s.inside ++ '"' :: rest) = .ok ((), rest) := by
  rw [skipString, pastString_inside]

/-! ## Strings that are written -/

/-- A control character by its code point. -/
def controlPiece (code : Fin 32) : Piece :=
  .quad '0' '0' (Nat.digitChar (code / 16)) (Nat.digitChar (code % 16))
    (by rw [(controlEscape_digits code).2]; rfl)

/-- The spelling in which a character is written. -/
def ofChar (c : Char) : Piece :=
  if hquote : c = '"' then .letter '"' rfl
  else if hslash : c = '\\' then .letter '\\' rfl
  else if c = '\x08' then .letter 'b' rfl
  else if c = '\x0c' then .letter 'f' rfl
  else if c = '\n' then .letter 'n' rfl
  else if c = '\r' then .letter 'r' rfl
  else if c = '\t' then .letter 't' rfl
  else if hcontrol : c < ' ' then controlPiece ⟨c.toNat, UInt32.lt_iff_toNat_lt.1 hcontrol⟩
  else .plain c ⟨hquote, hslash, hcontrol⟩

/-- The spelling in which a string is written. -/
def ofString (s : String) : Literal := s.toList.map ofChar

theorem chars_ofChar (c : Char) : (ofChar c).chars = escapeChar c := by
  unfold ofChar escapeChar
  -- One case for each branch of the writer.
  by_cases hquote : c = '"'
  · rw [dif_pos hquote, if_pos hquote]
    rfl
  rw [dif_neg hquote, if_neg hquote]
  by_cases hslash : c = '\\'
  · rw [dif_pos hslash, if_pos hslash]
    rfl
  rw [dif_neg hslash, if_neg hslash]
  by_cases hback : c = '\x08'
  · rw [if_pos hback, if_pos hback]
    rfl
  rw [if_neg hback, if_neg hback]
  by_cases hfeed : c = '\x0c'
  · rw [if_pos hfeed, if_pos hfeed]
    rfl
  rw [if_neg hfeed, if_neg hfeed]
  by_cases hline : c = '\n'
  · rw [if_pos hline, if_pos hline]
    rfl
  rw [if_neg hline, if_neg hline]
  by_cases hreturn : c = '\r'
  · rw [if_pos hreturn, if_pos hreturn]
    rfl
  rw [if_neg hreturn, if_neg hreturn]
  by_cases htab : c = '\t'
  · rw [if_pos htab, if_pos htab]
    rfl
  rw [if_neg htab, if_neg htab]
  by_cases hcontrol : c < ' '
  · have hescape := (controlEscape_digits ⟨c.toNat, UInt32.lt_iff_toNat_lt.1 hcontrol⟩).1
    simp only [Char.ofNat_toNat] at hescape
    rw [dif_pos hcontrol, if_pos hcontrol, hescape]
    rfl
  · rw [dif_neg hcontrol, if_neg hcontrol]
    rfl

theorem inside_ofString (s : String) : (ofString s).inside = s.toList.flatMap escapeChar := by
  rw [inside, ofString, List.flatMap_map]
  exact congrArg (s.toList.flatMap ·) (funext chars_ofChar)

/-- A written string is spelled as it is written. -/
theorem chars_ofString (s : String) : (ofString s).chars = (stringText s).toList := by
  rw [chars, inside_ofString, toList_stringText]

/-- A written string stands for itself. -/
theorem reading_ofString (s : String) : (ofString s).reading = .ok s := by
  have hread := stringBody_inside [] (ofString s)
  rw [inside_ofString, stringBody_escaped] at hread
  cases hs : (ofString s).reading with
  | ok t =>
      rw [hs] at hread
      cases hread
      rfl
  | error fault =>
      rw [hs] at hread
      cases hread

end Literal

end Descent.Json
