import Descent.Cursor.Report
import Descent.Proofs.Paint.Sequences

/-!
# How Painted Text Looks

A terminal is a small machine. It is in a style, shows every character in the
style it is in, and changes the style when a sequence says so. `Screen` is its
state, `Screen.take` its step and `Screen.takeAll` its run. The instructions
it knows are the usual ones: 0 for everything off, 1 and 22 for bold and not,
30 to 37 for the eight colours and 39 for none. A sequence may hold several,
with semicolons between them, and an empty one counts as 0.

A piece of painted text is made so that whatever style was in force is
switched off before its paint is switched on, and its paint behind it. So a
piece keeps the invariant that the terminal is in the standard style, and a run
over many pieces shows each of them in its own paint and nothing else painted
(`takeAll_piece`, `takeAll_terminalText`). A paint that was not switched off
could not be seen in the text that is left when the sequences are deleted;
only the run over the pieces behind it shows that there is none.

## Main definitions

* `Style`: How characters look, and `Style.obey`: how it changes.
* `Glyph`: A character with its style.
* `Screen`: What a terminal has shown, and its style.
* `onScreen`: What a terminal makes of a text.
* `Piece.glyphs`: How a piece of text should look.

## Theorems

* `chars_takeAll`: What is shown is what is left without the sequences.
* `takeAll_piece`: A piece shows in its paint and leaves the standard style.
* `onScreen_terminalText`: So do many pieces.
* `withoutSequences_terminalText`: Without its sequences, painted text is
  plain.
* `colours_say_the_same`: A diagnostic in colour and without.
-/

namespace Descent

/-- The colours of a terminal. -/
inductive Hue where
  | black
  | red
  | green
  | yellow
  | blue
  | magenta
  | cyan
  | white
  deriving DecidableEq, Repr

/-- How characters look. -/
structure Style where
  hue : Option Hue
  isBold : Bool
  deriving DecidableEq, Repr

namespace Style

/-- Neither coloured nor bold. -/
def standard : Style := ⟨none, false⟩

/-- The style behind an instruction. What a terminal does not know changes
    nothing. -/
def obey (style : Style) : Nat → Style
  | 0 => standard
  | 1 => { style with isBold := true }
  | 22 => { style with isBold := false }
  | 30 => { style with hue := some .black }
  | 31 => { style with hue := some .red }
  | 32 => { style with hue := some .green }
  | 33 => { style with hue := some .yellow }
  | 34 => { style with hue := some .blue }
  | 35 => { style with hue := some .magenta }
  | 36 => { style with hue := some .cyan }
  | 37 => { style with hue := some .white }
  | 39 => { style with hue := none }
  | _ => style

end Style

/-- A character as it is shown. -/
structure Glyph where
  char : Char
  style : Style
  deriving DecidableEq, Repr

namespace Style

/-- The characters of a text, all in one style. -/
def glyphs (style : Style) (s : String) : List Glyph :=
  s.toList.map (⟨·, style⟩)

@[simp]
theorem glyphs_append (style : Style) (s s' : String) :
    style.glyphs (s ++ s') = style.glyphs s ++ style.glyphs s' := by
  simp [glyphs]

@[simp]
theorem chars_glyphs (style : Style) (s : String) :
    (style.glyphs s).map (·.char) = s.toList := by
  simp [glyphs, Function.comp_def]

end Style

/-- The numbers in the body of a sequence. -/
def numbersOf (body : List Char) : List Nat :=
  (body.splitOn ';').map (Nat.ofDigitChars 10 · 0)

/-- What a terminal has shown, and the style it is in. -/
structure Screen where
  glyphs : List Glyph
  style : Style
  deriving DecidableEq, Repr

namespace Screen

/-- Nothing shown yet. -/
def blank : Screen := ⟨[], .standard⟩

/-- Shows a character, or changes the style. -/
def take (screen : Screen) : Sign → Screen
  | .shown c => { screen with glyphs := screen.glyphs ++ [⟨c, screen.style⟩] }
  | .sequence body => { screen with style := (numbersOf body).foldl Style.obey screen.style }

/-- Takes one sign after the other. -/
def takeAll (screen : Screen) (signs : List Sign) : Screen :=
  signs.foldl take screen

end Screen

/-- What a terminal makes of a text. -/
def onScreen (s : String) : Screen := Screen.blank.takeAll (signs s)

theorem numbersOf_toString (number : Nat) : numbersOf (toString number).toList = [number] := by
  rw [numbersOf, List.splitOn_eq_singleton (not_mem_toString number ';' rfl), List.map_singleton]
  simp

namespace Screen

/-! ## One part of a text -/

/-- What is shown is what is left of the text without its sequences. -/
theorem chars_takeAll (screen : Screen) (signs : List Sign) :
    (screen.takeAll signs).glyphs.map (·.char) =
      screen.glyphs.map (·.char) ++ signs.filterMap Sign.shown? := by
  induction signs generalizing screen with
  | nil => simp [takeAll]
  | cons sign rest ih =>
      have hrest := ih (screen.take sign)
      rw [takeAll] at hrest ⊢
      rw [List.foldl_cons, hrest, List.filterMap_cons]
      cases sign with
      | shown c => simp [take, Sign.shown?]
      | sequence body => rfl

theorem takeAll_shown (screen : Screen) (s : String) (rest : List Sign) :
    screen.takeAll (s.toList.map .shown ++ rest) =
      ({ screen with glyphs := screen.glyphs ++ screen.style.glyphs s } : Screen).takeAll
        rest := by
  unfold takeAll Style.glyphs
  rw [List.foldl_append]
  congr 1
  generalize s.toList = cs
  induction cs generalizing screen with
  | nil => simp
  | cons c cs ih => simp [take, ih]

/-- A text without an escape is shown in the style of the moment. -/
theorem takeAll_append (screen : Screen) (s rest : String) (hs : HasNoEscape s) :
    screen.takeAll (signs (s ++ rest)) =
      ({ screen with glyphs := screen.glyphs ++ screen.style.glyphs s } : Screen).takeAll
        (signs rest) := by
  rw [signs_append s rest hs, takeAll_shown]

/-- An instruction changes the style and shows nothing. -/
theorem takeAll_instruction (screen : Screen) (number : Nat) (rest : String) :
    screen.takeAll (signs (instruction number ++ rest)) =
      ({ screen with style := screen.style.obey number } : Screen).takeAll (signs rest) := by
  rw [signs_instruction, takeAll, List.foldl_cons, take, numbersOf_toString, List.foldl_cons,
    List.foldl_nil, takeAll]

end Screen

/-! ## Pieces -/

/-- A colour as a terminal shows it. -/
@[simp]
def Colour.hue : Colour → Hue
  | .red => .red
  | .cyan => .cyan

/-- The style that a paint stands for. -/
def Paint.style (p : Paint) : Style := ⟨some p.colour.hue, p.isBold⟩

/-- How a piece should look: in its paint, or in none. -/
def Piece.glyphs (p : Piece) : List Glyph :=
  ((p.paint.map Paint.style).getD .standard).glyphs p.text

@[simp]
theorem Piece.glyphs_bare (s : String) : (Piece.bare s).glyphs = Style.standard.glyphs s := rfl

@[simp]
theorem Piece.glyphs_painted (s : String) (colour : Colour) (isBold : Bool) :
    (Piece.painted s colour isBold).glyphs = (⟨some colour.hue, isBold⟩ : Style).glyphs s := rfl

theorem Colour.obey_number (colour : Colour) (style : Style) :
    style.obey colour.number = { style with hue := some colour.hue } := by
  cases colour <;> rfl

namespace Screen

/-- A paint that is switched on is the style, whatever the style was. -/
theorem takeAll_on (screen : Screen) (p : Paint) (rest : String) :
    screen.takeAll (signs (p.on ++ rest)) =
      ({ screen with style := p.style } : Screen).takeAll (signs rest) := by
  unfold Paint.on paintOff Paint.style
  by_cases hbold : p.isBold = true
  · simp only [hbold, if_true, String.append_assoc, takeAll_instruction, Colour.obey_number]
    rfl
  · simp only [hbold, Bool.false_eq_true, if_false, String.append_assoc, String.empty_append,
      takeAll_instruction, Colour.obey_number]
    rfl

/-- In front of a piece and behind it a terminal is in the standard style, and
    what it has shown between is the piece in its paint. -/
theorem takeAll_piece (screen : Screen) (p : Piece) (rest : String) (hp : HasNoEscape p.text)
    (hstyle : screen.style = .standard) :
    screen.takeAll (signs (p.forTerminal ++ rest)) =
      (⟨screen.glyphs ++ p.glyphs, .standard⟩ : Screen).takeAll (signs rest) := by
  unfold Piece.forTerminal Piece.glyphs
  cases p.paint with
  | none => rw [takeAll_append _ _ _ hp, hstyle, Option.map_none, Option.getD_none]
  | some paint =>
      -- On with the paint, the text, and everything off.
      simp only [String.append_assoc]
      rw [takeAll_on, takeAll_append _ _ _ hp, paintOff, takeAll_instruction]
      rfl

/-- So it is with one piece after the other. -/
theorem takeAll_terminalText (screen : Screen) (pieces : List Piece)
    (hpieces : ∀ p ∈ pieces, HasNoEscape p.text) (hstyle : screen.style = .standard) :
    screen.takeAll (signs (terminalText pieces)) =
      ⟨screen.glyphs ++ pieces.flatMap Piece.glyphs, .standard⟩ := by
  induction pieces generalizing screen with
  | nil =>
      rw [List.flatMap_nil, List.append_nil, ← hstyle]
      rfl
  | cons p pieces ih =>
      rw [List.forall_mem_cons] at hpieces
      have hjoin : terminalText (p :: pieces) = p.forTerminal ++ terminalText pieces := by
        rw [terminalText, List.map_cons, String.join_cons, terminalText]
      rw [hjoin, takeAll_piece _ _ _ hpieces.1 hstyle, ih _ hpieces.2 rfl, List.flatMap_cons,
        List.append_assoc]

end Screen

/-- Painted text shows each of its pieces in its paint, and leaves the standard
    style behind. -/
theorem onScreen_terminalText (pieces : List Piece)
    (hpieces : ∀ p ∈ pieces, HasNoEscape p.text) :
    onScreen (terminalText pieces) = ⟨pieces.flatMap Piece.glyphs, .standard⟩ :=
  Screen.blank.takeAll_terminalText pieces hpieces rfl

/-- Bold does not last until the next paint. -/
example : onScreen (terminalText [.painted "a" .red true, .bare "b", .painted "c" .cyan false]) =
    ⟨[⟨'a', ⟨some .red, true⟩⟩, ⟨'b', .standard⟩, ⟨'c', ⟨some .cyan, false⟩⟩], .standard⟩ := by
  decide

/-- Without its sequences, painted text is plain. -/
theorem withoutSequences_terminalText (pieces : List Piece)
    (hpieces : ∀ p ∈ pieces, HasNoEscape p.text) :
    withoutSequences (terminalText pieces) = plainText pieces := by
  have hshown := Screen.blank.chars_takeAll (signs (terminalText pieces))
  rw [← onScreen, onScreen_terminalText pieces hpieces, Screen.blank, List.map_nil,
    List.nil_append] at hshown
  rw [withoutSequences, ← hshown, plainText]
  -- Piece by piece, the characters of the glyphs are those of the text.
  clear hshown hpieces
  induction pieces with
  | nil => rfl
  | cons p pieces ih =>
      rw [List.flatMap_cons, List.map_append, String.ofList_append, ih, Piece.glyphs,
        Style.chars_glyphs, String.ofList_toList, List.map_cons, String.join_cons]

/-- Text without an escape has no sequences to lose. -/
theorem withoutSequences_of_hasNoEscape (s : String) (hs : HasNoEscape s) :
    withoutSequences s = s := by
  have hsigns := signs_append s "" hs
  rw [String.append_empty] at hsigns
  rw [withoutSequences, hsigns]
  simp [signs, signsFrom, Sign.shown?, List.filterMap_map, Function.comp_def]

/-! ## Diagnostics -/

theorem hasNoEscape_append (s s' : String) :
    HasNoEscape (s ++ s') ↔ HasNoEscape s ∧ HasNoEscape s' := by
  simp [HasNoEscape, not_or]

theorem hasNoEscape_plainText (pieces : List Piece)
    (hpieces : ∀ p ∈ pieces, HasNoEscape p.text) : HasNoEscape (plainText pieces) := by
  induction pieces with
  | nil => simp [HasNoEscape, plainText]
  | cons p pieces ih =>
      rw [List.forall_mem_cons] at hpieces
      rw [plainText, List.map_cons, String.join_cons, hasNoEscape_append]
      exact ⟨hpieces.1, ih hpieces.2⟩

theorem Problem.hasNoEscape_code (p : Problem) : HasNoEscape p.code := by
  cases p <;> simp [Problem.code, HasNoEscape]

namespace Diagnostic

/-- The pieces of a diagnostic hold no escape if its text and its advice do
    not. -/
theorem hasNoEscape_pieces (d : Diagnostic) (hrendered : HasNoEscape d.rendered)
    (hhelp : ∀ help, d.help? = some help → HasNoEscape help) :
    ∀ p ∈ d.pieces, HasNoEscape p.text := by
  have herror : HasNoEscape "error" := by simp [HasNoEscape]
  have hcode : HasNoEscape d.code :=
    (hasNoEscape_append _ _).2 ⟨by simp [HasNoEscape], d.problem.hasNoEscape_code⟩
  have hbrackets : HasNoEscape ("[" ++ d.code ++ "]:\n") :=
    (hasNoEscape_append _ _).2
      ⟨(hasNoEscape_append _ _).2 ⟨by simp [HasNoEscape], hcode⟩, by simp [HasNoEscape]⟩
  have htext : HasNoEscape (d.rendered ++ "\n") :=
    (hasNoEscape_append _ _).2 ⟨hrendered, by simp [HasNoEscape]⟩
  rw [pieces, List.forall_mem_append]
  refine ⟨by simp [Piece.painted, Piece.bare, herror, hbrackets, htext], ?_⟩
  cases hadvice : d.help? with
  | none => simp
  | some help =>
      have hword : HasNoEscape "help" := by simp [HasNoEscape]
      have hline : HasNoEscape (": " ++ help ++ "\n") := by
        simp only [hasNoEscape_append]
        exact ⟨⟨by simp [HasNoEscape], hhelp help hadvice⟩, by simp [HasNoEscape]⟩
      simp [Piece.painted, Piece.bare, hword, hline]

/-- A diagnostic as it is written without colours. -/
theorem written_false (d : Diagnostic) :
    d.written false = "error[" ++ d.code ++ "]:\n" ++ d.rendered ++ "\n" ++
      match d.help? with
      | some help => "help: " ++ help ++ "\n"
      | none => "" := by
  unfold written pieces
  rw [← String.toList_inj]
  cases d.help? with
  | none => simp [plainText, Piece.painted, Piece.bare]
  | some help => simp [plainText, Piece.painted, Piece.bare]

end Diagnostic

namespace Style

/-- The style of the word in front of a diagnostic. -/
def boldRed : Style := ⟨some .red, true⟩

/-- The style of the word in front of its advice. -/
def plainCyan : Style := ⟨some .cyan, false⟩

end Style

/-- Whatever a diagnostic says, as long as there is no escape in its text and
    its advice: deleting the sequences from what is written in colour gives
    what is written without, in every colour mode. That is the word `error`
    with the code, the text, and a line with the advice, if there is any. On a
    terminal the word `error` is red and bold, the word `help` in front of the
    advice is cyan, and everything else is in the standard style, and so is
    what will be written behind. -/
theorem colours_say_the_same (d : Diagnostic) (hrendered : HasNoEscape d.rendered)
    (hhelp : ∀ help, d.help? = some help → HasNoEscape help) :
    withoutSequences (d.written true) = d.written false ∧
      (∀ mode surroundingsAllow,
        withoutSequences (d.printed mode surroundingsAllow) = d.written false) ∧
      d.written false = "error[" ++ d.code ++ "]:\n" ++ d.rendered ++ "\n" ++
        (match d.help? with
        | some help => "help: " ++ help ++ "\n"
        | none => "") ∧
      onScreen (d.written true) =
        ⟨Style.boldRed.glyphs "error" ++
          Style.standard.glyphs ("[" ++ d.code ++ "]:\n" ++ d.rendered ++ "\n") ++
          (match d.help? with
          | some help =>
            Style.plainCyan.glyphs "help" ++ Style.standard.glyphs (": " ++ help ++ "\n")
          | none => []), .standard⟩ := by
  have hpieces := d.hasNoEscape_pieces hrendered hhelp
  have hcoloured : withoutSequences (d.written true) = d.written false :=
    withoutSequences_terminalText d.pieces hpieces
  refine ⟨hcoloured, ?_, d.written_false, ?_⟩
  · intro mode surroundingsAllow
    unfold Diagnostic.printed
    by_cases hpaints : mode.paints surroundingsAllow = true
    · rw [hpaints, hcoloured]
    -- Nothing has been painted, so nothing is deleted.
    · rw [Bool.not_eq_true] at hpaints
      rw [hpaints]
      exact withoutSequences_of_hasNoEscape _ (hasNoEscape_plainText d.pieces hpieces)
  · rw [Diagnostic.written, if_pos rfl, onScreen_terminalText d.pieces hpieces,
      Diagnostic.pieces]
    cases d.help? with
    | none => simp [Style.boldRed]
    | some help => simp [Style.boldRed, Style.plainCyan]

/-- A text and an advice that hold all of a sequence but its escape, and the
    two words that are painted in front of them. -/
theorem colours_say_the_same_among_impostors :
    let c := (Cursor.ofFeed (TokenBuffer.ofList [])).withFormatter
      fun _ _ _ _ _ => "[31merror\nhelp: m"
    let d := (c.unexpectedValue "[0m").result
    HasNoEscape d.rendered ∧ (∀ help, d.help? = some help → HasNoEscape help) ∧
      withoutSequences (d.written true) = d.written false ∧
      d.written false = "error[parse_context::unexpected_value]:\n[31merror\nhelp: m\n" ++
        "help: expected one of: [0m\n" ∧
      (onScreen (d.written true)).style = .standard := by
  intro c d
  have hrendered : HasNoEscape d.rendered := by
    have htext : d.rendered = "[31merror\nhelp: m" := rfl
    simp [htext, HasNoEscape]
  have hhelp : ∀ help, d.help? = some help → HasNoEscape help := by
    intro help hadvice
    have htext : help = "expected one of: [0m" := (Option.some.inj hadvice).symm
    simp [htext, HasNoEscape]
  rcases colours_say_the_same d hrendered hhelp with ⟨hsame, _, hplain, hshown⟩
  exact ⟨hrendered, hhelp, hsame, hplain, congrArg Screen.style hshown⟩

end Descent
