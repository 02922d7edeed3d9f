import Descent.Json.Printer
import Descent.Json.Record

/-!
# Reading Back: Characters and Strings

A text that was written is read from its front, and something else may follow
it: the rest of an array, or nothing at all. `Reads` says what a reader makes
of a text whatever follows, and that it stops exactly where the text does.
Its outcome is a result or a fault, so that the same laws serve for what is
read back and for what is refused on the way.

What follows matters to numbers alone, which would go on through more digits.
Behind a value there is only a comma, a closing bracket, a blank or the end.

A string is read back character by character. An escape that was written is
always one of the short ones or stands for a control character, so halves of
surrogate pairs never come up.

## Main definitions

* `IsEnded`: What may follow a value.
* `Reads`: What a reader makes of a text.

## Theorems

* `bind_ok`, `bind_error`: How readers follow one another.
* `parse_of_reads`: A whole text that is read.
* `stringChars_escapeChar`: An escape stands for its character.
* `reads_string`: A string is read back.
* `reads_variant`: A name is read back as what it stands for.
-/

namespace Descent.Json

namespace Reader

variable {α β : Type}

/-! ## Readers one after the other -/

theorem bind_apply (reader : Reader α) (next : α → Reader β) (cs : List Char) :
    (reader >>= next) cs = reader cs >>= fun read => next read.1 read.2 := rfl

theorem pure_apply (a : α) (cs : List Char) : (pure a : Reader α) cs = .ok (a, cs) := rfl

theorem bind_ok (reader : Reader α) (next : α → Reader β) (cs rest : List Char) (a : α)
    (hread : reader cs = .ok (a, rest)) : (reader >>= next) cs = next a rest := by
  rw [bind_apply, hread]
  rfl

theorem bind_error (reader : Reader α) (next : α → Reader β) (cs : List Char) (fault : Fault)
    (hread : reader cs = .error fault) : (reader >>= next) cs = .error fault := by
  rw [bind_apply, hread]
  rfl

theorem map_apply (f : α → β) (reader : Reader α) (cs : List Char) :
    (f <$> reader) cs = (reader cs).map fun read => (f read.1, read.2) := by
  change (reader cs >>= fun read => pure (f read.1, read.2)) = _
  cases reader cs with
  | ok read => rfl
  | error fault => rfl

/-- The characters that may stand behind a value: the marks that go on or end
    a container, and blanks. -/
def endings : List Char := [',', ']', '\x7d', ' ', '\t', '\n', '\r']

/-- What may follow a value: the rest of a container, blanks, or nothing. -/
def IsEnded (rest : List Char) : Prop :=
  ∀ c, rest.head? = some c → c ∈ endings

theorem isEnded_nil : IsEnded [] := nofun

theorem isEnded_cons (c : Char) (rest : List Char) (hc : c ∈ endings) : IsEnded (c :: rest) := by
  intro d hd
  rw [← Option.some.inj hd]
  exact hc

/-- What is false of all that may follow is false of the first character. -/
theorem eq_false_of_isEnded (isLead : Char → Bool) (hlead : endings.all (!isLead ·) = true)
    (rest : List Char) (hrest : IsEnded rest) (c : Char) (hc : rest.head? = some c) :
    isLead c = false := by
  simpa using List.all_eq_true.1 hlead c (hrest c hc)

theorem isEnded_comma (rest : List Char) : IsEnded (',' :: rest) :=
  isEnded_cons _ rest (by simp [endings])

theorem isEnded_bracket (rest : List Char) : IsEnded (']' :: rest) :=
  isEnded_cons _ rest (by simp [endings])

theorem isEnded_brace (rest : List Char) : IsEnded ('\x7d' :: rest) :=
  isEnded_cons _ rest (by simp [endings])

/-- A reader makes this of a text, whatever follows, and leaves what
    follows. -/
def Reads (reader : Reader α) (text : String) (outcome : Except Fault α) : Prop :=
  ∀ rest, IsEnded rest → reader (text.toList ++ rest) = outcome.map (·, rest)

/-- What is done to the result leaves what follows alone. -/
theorem map_outcome (f : α → β) (outcome : Except Fault α) (rest : List Char) :
    ((outcome.map (·, rest)).map fun read => (f read.1, read.2)) =
      (outcome.map f).map (·, rest) := by
  cases outcome with
  | ok a => rfl
  | error fault => rfl

theorem Reads.map {reader : Reader α} {text : String} {outcome : Except Fault α} (f : α → β)
    (hreads : Reads reader text outcome) : Reads (f <$> reader) text (outcome.map f) := by
  intro rest hrest
  rw [map_apply, hreads rest hrest, map_outcome]

/-- A whole text is read by a reader that stops at its end. -/
theorem parse_of_reads (reader : Reader α) (text : String) (outcome : Except Fault α)
    (hreads : Reads reader text outcome) : reader.parse text = outcome := by
  have hread := hreads [] isEnded_nil
  rw [List.append_nil] at hread
  unfold parse
  cases outcome with
  | ok a =>
      rw [hread]
      rfl
  | error fault =>
      rw [hread]
      rfl

/-! ## Characters -/

/-- A character that is not blank is seen where it is. -/
theorem next?_cons (c : Char) (cs : List Char) (hblank : isBlank c = false) :
    next? (c :: cs) = .ok (some c, c :: cs) := by
  unfold next?
  rw [List.dropWhile_cons, hblank]
  rfl

theorem start_cons (c : Char) (cs : List Char) (hblank : isBlank c = false) :
    start (c :: cs) = .ok (c, c :: cs) :=
  bind_ok next? _ (c :: cs) (c :: cs) (some c) (next?_cons c cs hblank)

theorem colon_cons (cs : List Char) : colon (':' :: cs) = .ok ((), cs) := rfl

/-! ## Strings -/

theorem stringChars_plain (c : Char) (rest : List Char) (hquote : c ≠ '"') (hslash : c ≠ '\\')
    (hcontrol : ¬ c < ' ') : stringChars (c :: rest) = prepend c <$> stringChars rest := by
  rw [stringChars]
  -- All other patterns start with a quote or a backslash.
  · rw [if_neg hcontrol]
  all_goals simp_all

/-- The four digits of a control character are its code point. -/
theorem controlEscape_digits : ∀ code : Fin 32,
    controlEscape (Char.ofNat code) =
      ['\\', 'u', '0', '0', Nat.digitChar (code / 16), Nat.digitChar (code % 16)] ∧
    hexQuad? '0' '0' (Nat.digitChar (code / 16)) (Nat.digitChar (code % 16)) = some code.val := by
  decide

theorem stringChars_controlEscape (c : Char) (rest : List Char) (hcontrol : c < ' ') :
    stringChars (controlEscape c ++ rest) = prepend c <$> stringChars rest := by
  have hcode : c.toNat < 32 := UInt32.lt_iff_toNat_lt.1 hcontrol
  rcases controlEscape_digits ⟨c.toNat, hcode⟩ with ⟨hescape, hquad⟩
  simp only [Char.ofNat_toNat] at hescape
  -- A code point below 32 is no half of a pair, so the one escape is all.
  have hlow : isLowSurrogate c.toNat = false := by
    simp only [isLowSurrogate, Bool.and_eq_false_iff, decide_eq_false_iff_not]
    omega
  have hhigh : isHighSurrogate c.toNat = false := by
    simp only [isHighSurrogate, Bool.and_eq_false_iff, decide_eq_false_iff_not]
    omega
  rw [hescape]
  simp only [List.cons_append, List.nil_append, stringChars, hquad, hlow, hhigh, Char.ofNat_toNat]
  rfl

/-- An escape stands for the character it was written for. -/
theorem stringChars_escapeChar (c : Char) (rest : List Char) :
    stringChars (escapeChar c ++ rest) = prepend c <$> stringChars rest := by
  unfold escapeChar
  -- One case for each branch of the writer. Escapes with a letter compute.
  by_cases hquote : c = '"'
  · rw [if_pos hquote, hquote]
    rfl
  rw [if_neg hquote]
  by_cases hslash : c = '\\'
  · rw [if_pos hslash, hslash]
    rfl
  rw [if_neg hslash]
  by_cases hback : c = '\x08'
  · rw [if_pos hback, hback]
    rfl
  rw [if_neg hback]
  by_cases hfeed : c = '\x0c'
  · rw [if_pos hfeed, hfeed]
    rfl
  rw [if_neg hfeed]
  by_cases hline : c = '\n'
  · rw [if_pos hline, hline]
    rfl
  rw [if_neg hline]
  by_cases hreturn : c = '\r'
  · rw [if_pos hreturn, hreturn]
    rfl
  rw [if_neg hreturn]
  by_cases htab : c = '\t'
  · rw [if_pos htab, htab]
    rfl
  rw [if_neg htab]
  by_cases hcontrol : c < ' '
  · rw [if_pos hcontrol]
    exact stringChars_controlEscape c rest hcontrol
  · rw [if_neg hcontrol]
    exact stringChars_plain c rest hquote hslash hcontrol

theorem stringChars_escaped (chars rest : List Char) :
    stringChars (chars.flatMap escapeChar ++ '"' :: rest) = .ok (chars, rest) := by
  induction chars with
  | nil => rfl
  | cons c chars ih =>
      rw [List.flatMap_cons, List.append_assoc, stringChars_escapeChar, ih]
      rfl

theorem toList_stringText (s : String) :
    (stringText s).toList = '"' :: (s.toList.flatMap escapeChar ++ ['"']) := by
  rw [stringText, String.toList_ofList, List.cons_append]

/-- The inside of a string is read up to its last quote. -/
theorem stringBody_escaped (s : String) (rest : List Char) :
    stringBody (s.toList.flatMap escapeChar ++ '"' :: rest) = .ok (s, rest) := by
  simp only [stringBody, stringChars_escaped, String.ofList_toList]

/-- The text of a string with what follows it, its first quote set apart. -/
theorem stringText_append (s : String) (rest : List Char) :
    (stringText s).toList ++ rest = '"' :: (s.toList.flatMap escapeChar ++ '"' :: rest) := by
  rw [toList_stringText, List.cons_append, List.append_assoc]
  rfl

theorem key_stringText (s : String) (rest : List Char) :
    key ((stringText s).toList ++ rest) = .ok (s, rest) := by
  rw [stringText_append]
  exact stringBody_escaped s rest

theorem reads_string (s : String) : Reads string (stringText s) (.ok s) := by
  intro rest _
  rw [stringText_append]
  exact stringBody_escaped s rest

theorem reads_string? (s : Option String) :
    Reads string? (optionText stringText s) (.ok s) := by
  intro rest hrest
  cases s with
  | none => rfl
  | some s =>
      have hstring := reads_string s rest hrest
      -- A quote is not the first letter of null, so a string is read.
      simp only [optionText, stringText_append] at hstring ⊢
      rw [string?, bind_ok next? _ _ _ _ (next?_cons '"' _ rfl)]
      exact bind_ok string _ _ rest s hstring

/-- A name among finitely many is read back as what it stands for, if each
    name is found where it belongs. -/
theorem reads_variant (nameOf : α → String) (all : List α) (hasRoom : Bool) (a : α)
    (hnamed : all.find? (nameOf · = nameOf a) = some a) :
    Reads (variant nameOf all hasRoom) (stringText (nameOf a)) (.ok a) := by
  intro rest _
  rw [stringText_append]
  have hname : named nameOf all (nameOf a) rest = .ok (a, rest) := by
    rw [named, hnamed]
    rfl
  exact (bind_ok stringBody _ _ rest (nameOf a) (stringBody_escaped _ rest)).trans hname

end Reader

end Descent.Json
