import Mathlib.Data.List.Basic

/-!
# Lines and Runs of a Text

A text for a reader is put together from parts, and what was put in can be
told from it only if one sees where the parts end. Two kinds of ends can be
seen whatever the parts are. A part without a line break ends with its line,
if a break was put behind it. And a run of characters of one sort, such as
digits or blanks, ends in front of the first character of another sort.

## Main definitions

* `IsOneLine`: A text without a line break.
* `linesOf`: The lines of a text.
* `EndsInNoDigit`: A text that does not end in a digit.

## Theorems

* `linesOf_line`: A line in front of a text is its first.
* `linesOf_join`: Lines that were each ended with a break come back as they
  were.
* `takeWhile_run`: A run of characters ends in front of the first of another
  sort.
* `split_at_run`: A run of characters ends at the same place in equal texts.
* `isDigit_of_mem_toString`: A number is written in digits.
* `eq_of_toString_eq`: The digits tell the number.
* `append_toString_inj`: A number behind a text can be told from it.
-/

namespace Descent

/-- A text without a line break. -/
def IsOneLine (s : String) : Prop := '\n' ∉ s.toList

/-- The lines of a text, without their breaks. -/
def linesOf (s : String) : List String :=
  (s.toList.splitOn '\n').map String.ofList

theorem isOneLine_append (s s' : String) :
    IsOneLine (s ++ s') ↔ IsOneLine s ∧ IsOneLine s' := by
  simp [IsOneLine, not_or]

theorem isOneLine_replicate (n : Nat) (c : Char) (hc : c ≠ '\n') :
    IsOneLine (String.ofList (List.replicate n c)) := by
  unfold IsOneLine
  rw [String.toList_ofList]
  intro hmem
  exact hc (List.eq_of_mem_replicate hmem).symm

/-! ## The lines of a text -/

theorem linesOf_of_isOneLine (s : String) (hs : IsOneLine s) : linesOf s = [s] := by
  rw [linesOf, List.splitOn_eq_singleton hs, List.map_singleton, String.ofList_toList]

/-- A line in front of a text is its first. -/
theorem linesOf_line (line rest : String) (hline : IsOneLine line) :
    linesOf (line ++ "\n" ++ rest) = line :: linesOf rest := by
  have hchars : (line ++ "\n" ++ rest).toList = line.toList ++ '\n' :: rest.toList := by simp
  rw [linesOf, hchars, List.splitOn_append_cons_self_of_not_mem hline, List.map_cons,
    String.ofList_toList]
  rfl

/-- Lines that were each ended with a break come back as they were, and behind
    them those of the rest. -/
theorem linesOf_join (lines : List String) (rest : String)
    (hlines : ∀ line ∈ lines, IsOneLine line) :
    linesOf (String.join (lines.map (· ++ "\n")) ++ rest) = lines ++ linesOf rest := by
  induction lines with
  | nil => simp
  | cons line lines ih =>
      rw [List.forall_mem_cons] at hlines
      rw [List.map_cons, String.join_cons, String.append_assoc, linesOf_line _ _ hlines.1,
        ih hlines.2, List.cons_append]

theorem splitOn_append (cs rest : List Char) (hcs : '\n' ∉ cs) :
    (cs ++ rest).splitOn '\n' = (rest.splitOn '\n').modifyHead (cs ++ ·) := by
  induction cs with
  | nil => exact (congrFun List.modifyHead_id _).symm
  | cons c cs ih =>
      simp only [List.mem_cons, not_or] at hcs
      have hbreak : (c == '\n') = false := by simpa using Ne.symm hcs.1
      rw [List.cons_append, List.splitOn_cons_eq_if_modifyHead, hbreak, ih hcs.2,
        List.modifyHead_modifyHead]
      rfl

/-- A part without a line break in front of a text is in front of its first
    line. -/
theorem linesOf_append (s rest : String) (hs : IsOneLine s) :
    ∃ line lines, linesOf rest = line :: lines ∧ linesOf (s ++ rest) = (s ++ line) :: lines := by
  unfold linesOf
  rw [String.toList_append, splitOn_append _ _ hs]
  rcases hsplit : rest.toList.splitOn '\n' with _ | ⟨line, lines⟩
  · exact absurd hsplit (List.splitOn_ne_nil _ _)
  · refine ⟨String.ofList line, lines.map String.ofList, rfl, ?_⟩
    rw [List.modifyHead_cons, List.map_cons, String.ofList_append, String.ofList_toList]

/-! ## Runs of characters -/

/-- A run of characters ends in front of the first of another sort. -/
theorem takeWhile_run (isRun : Char → Bool) (run rest : List Char)
    (hrun : ∀ c ∈ run, isRun c = true) (hrest : ∀ c, rest.head? = some c → isRun c = false) :
    (run ++ rest).takeWhile isRun = run := by
  rw [List.takeWhile_append_of_pos hrun]
  cases rest with
  | nil => rw [List.takeWhile_nil, List.append_nil]
  | cons c rest => simp [hrest c rfl]

/-- In equal texts a run of characters ends at the same place, if it does not
    go on behind. -/
theorem split_at_run (isRun : Char → Bool) (run rest run' rest' : List Char)
    (hrun : ∀ c ∈ run, isRun c = true) (hrun' : ∀ c ∈ run', isRun c = true)
    (hrest : ∀ c, rest.head? = some c → isRun c = false)
    (hrest' : ∀ c, rest'.head? = some c → isRun c = false)
    (hsame : run ++ rest = run' ++ rest') : run = run' ∧ rest = rest' := by
  have htake := congrArg (List.takeWhile isRun) hsame
  rw [takeWhile_run isRun run rest hrun hrest, takeWhile_run isRun run' rest' hrun' hrest'] at htake
  subst htake
  exact ⟨rfl, List.append_cancel_left hsame⟩

/-- A number is written in digits. -/
theorem isDigit_of_mem_toString (n : Nat) (c : Char) (hc : c ∈ (toString n).toList) :
    c.isDigit = true := by
  rw [Nat.toString_eq_ofList_toDigits, String.toList_ofList] at hc
  exact Nat.isDigit_of_mem_toDigits (by omega) (by omega) hc

theorem not_mem_toString (n : Nat) (c : Char) (hc : c.isDigit = false) :
    c ∉ (toString n).toList := by
  intro hmem
  rw [isDigit_of_mem_toString n c hmem] at hc
  cases hc

theorem isOneLine_toString (n : Nat) : IsOneLine (toString n) :=
  not_mem_toString n '\n' rfl

theorem eq_of_toString_eq (m n : Nat) (hsame : toString m = toString n) : m = n := by
  have hvalue := congrArg (fun s => Nat.ofDigitChars 10 s.toList 0) hsame
  simpa [Nat.toString_eq_ofList_toDigits] using hvalue

/-- A text that does not end in a digit. -/
def EndsInNoDigit (s : String) : Prop :=
  ∀ c, s.toList.getLast? = some c → c.isDigit = false

theorem endsInNoDigit_append_colon (s : String) : EndsInNoDigit (s ++ ":") := by
  simp [EndsInNoDigit]

/-- A number behind a text can be told from it, and so can the text, as long
    as the text does not end in a digit itself. -/
theorem append_toString_inj (s s' : String) (m n : Nat) (hs : EndsInNoDigit s)
    (hs' : EndsInNoDigit s') (hsame : s ++ toString m = s' ++ toString n) : s = s' ∧ m = n := by
  have hchars := congrArg (fun text => text.toList.reverse) hsame
  simp only [String.toList_append, List.reverse_append] at hchars
  -- Read from the right, the digits end in front of the last character of the
  -- text.
  have hdigits (k : Nat) : ∀ c ∈ (toString k).toList.reverse, c.isDigit = true := by
    intro c hc
    exact isDigit_of_mem_toString k c (List.mem_reverse.1 hc)
  have hhead (s : String) (hs : EndsInNoDigit s) :
      ∀ c, s.toList.reverse.head? = some c → c.isDigit = false := by
    intro c hc
    rw [List.head?_reverse] at hc
    exact hs c hc
  rcases split_at_run Char.isDigit _ _ _ _ (hdigits m) (hdigits n) (hhead s hs) (hhead s' hs')
    hchars with ⟨hnumber, htext⟩
  exact ⟨String.toList_inj.1 (List.reverse_inj.1 htext),
    eq_of_toString_eq m n (String.toList_inj.1 (List.reverse_inj.1 hnumber))⟩

end Descent
