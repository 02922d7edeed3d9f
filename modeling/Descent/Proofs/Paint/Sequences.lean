import Descent.Paint
import Descent.Proofs.Text.Lines

/-!
# What a Terminal Takes a Text for

A terminal reads a text from the left and shows it character by character,
until it meets an escape with a bracket behind it. From there up to the next
`m` it shows nothing and takes what it reads for an instruction. Nothing else
in a text is an instruction, neither brackets nor numbers nor an `m`, so a text
without an escape is shown as it is.

`signs` is that reading. It knows nothing of how painted text is made, which
is what lets the two be compared: to delete the sequences of a text, or to find
out how it looks, one takes its signs and never its pieces.

## Main definitions

* `Sign`: What a terminal takes a part of a text for.
* `signs`: What it takes a whole text for.
* `withoutSequences`: A text with its sequences deleted.
* `HasNoEscape`: A text that is shown as it is.

## Theorems

* `signs_append`: A text without an escape is shown as it is.
* `signs_instruction`: An instruction is one sequence.
-/

namespace Descent

/-- What a terminal takes a part of a text for. -/
inductive Sign where
  | shown (c : Char)
  /-- A sequence, with what stands between its bracket and its `m`. -/
  | sequence (body : List Char)
  deriving DecidableEq, Repr

namespace Sign

/-- The character that is shown, if it is one. -/
def shown? : Sign → Option Char
  | shown c => some c
  | sequence _ => none

end Sign

/-- What a terminal takes characters for. Inside a sequence it has a part of
    its body, the latest character first. -/
def signsFrom : Option (List Char) → List Char → List Sign
  | none, [] => []
  | none, '\x1b' :: '[' :: cs => signsFrom (some []) cs
  | none, c :: cs => .shown c :: signsFrom none cs
  -- What does not end is no sequence.
  | some body, [] => ('\x1b' :: '[' :: body.reverse).map .shown
  | some body, 'm' :: cs => .sequence body.reverse :: signsFrom none cs
  | some body, c :: cs => signsFrom (some (c :: body)) cs

/-- What a terminal takes a text for. -/
def signs (s : String) : List Sign := signsFrom none s.toList

/-- A text with its sequences deleted. -/
def withoutSequences (s : String) : String :=
  String.ofList ((signs s).filterMap Sign.shown?)

/-- A text in which no sequence can begin. -/
def HasNoEscape (s : String) : Prop := '\x1b' ∉ s.toList

theorem signsFrom_append (cs rest : List Char) (hcs : '\x1b' ∉ cs) :
    signsFrom none (cs ++ rest) = cs.map .shown ++ signsFrom none rest := by
  induction cs with
  | nil => rfl
  | cons c cs ih =>
      simp only [List.mem_cons, not_or] at hcs
      rw [List.cons_append, signsFrom, ih hcs.2, List.map_cons, List.cons_append]
      intro _ hescape
      exact absurd hescape.symm hcs.1

/-- A text without an escape is shown as it is. -/
theorem signs_append (s rest : String) (hs : HasNoEscape s) :
    signs (s ++ rest) = s.toList.map .shown ++ signs rest := by
  rw [signs, String.toList_append, signsFrom_append _ _ hs, signs]

/-- A sequence goes up to the first `m`. -/
theorem signsFrom_body (front body rest : List Char) (hbody : 'm' ∉ body) :
    signsFrom (some front) (body ++ 'm' :: rest) =
      .sequence (front.reverse ++ body) :: signsFrom none rest := by
  induction body generalizing front with
  | nil => rw [List.nil_append, signsFrom, List.append_nil]
  | cons c body ih =>
      simp only [List.mem_cons, not_or] at hbody
      rw [List.cons_append, signsFrom, ih _ hbody.2, List.reverse_cons, List.append_assoc,
        List.singleton_append]
      intro hend
      exact absurd hend.symm hbody.1

/-- An instruction is one sequence, whatever its number and whatever stands
    behind it. -/
theorem signs_instruction (number : Nat) (rest : String) :
    signs (instruction number ++ rest) = .sequence (toString number).toList :: signs rest := by
  have hchars : (instruction number ++ rest).toList =
      '\x1b' :: '[' :: ((toString number).toList ++ 'm' :: rest.toList) := by
    simp [instruction]
  rw [signs, hchars, signsFrom, signsFrom_body [] _ _ (not_mem_toString number 'm' rfl), signs]
  rfl

/-- A bracket without its escape begins nothing, and neither does an escape
    without its bracket. -/
example : signs (instruction 31 ++ "[0m\x1bm") =
    [.sequence ['3', '1'], .shown '[', .shown '0', .shown 'm', .shown '\x1b', .shown 'm'] := by
  decide

end Descent
