import Descent.Text.Emoji
import Descent.Text.Ligature

/-!
# Display Width

The number of terminal cells a text takes. Most characters add their own
cells, but some sequences are drawn as one shape, and a shape is known only
from its last character: a skin tone, a variation selector or a joined emoji
changes what stands before it. The text is therefore measured from its end,
and each character is told what the text to its right begins with.

The sequences are: a carriage return before a line feed, which adds nothing;
a base with a variation selector; an emoji with a skin tone; emoji joined by
U+200D; flags, whether of two letters or with the name of a region; and the
ligatures of several scripts.

## Main definitions

* `Start`: What a text begins with, as far as a character before it cares.
* `Ahead`: A start with the variation selectors that stand before it.
* `measure`: What one character adds, and what the text then begins with.
* `width`: The cells of a whole text.
-/

namespace Descent.Text

/-- What a variation selector asks for. -/
inductive Style where
  | emoji
  | text
  | fullWidth
  deriving DecidableEq, Repr

/-- What a text begins with, as far as the character before it cares. -/
inductive Start where
  /-- Nothing that looks back. -/
  | plain
  | lineFeed
  | ligature (part : Ligature)
  | skinTone
  /-- A complete emoji. -/
  | emoji
  /-- One letter of a flag. -/
  | flagLetter
  /-- Two or more letters of flags. -/
  | flag
  /-- The joiner U+200D before an emoji. -/
  | joiner
  /-- A keycap before such a joiner. -/
  | joinedKeycap
  /-- The last letter of a flag before such a joiner. -/
  | joinedLetter
  /-- An even number of flag letters before such a joiner. -/
  | joinedFlag
  /-- An odd number of flag letters, more than one, before such a joiner. -/
  | joinedFlagLetter
  /-- The last letters in the name of a region before such a joiner. -/
  | joinedTagLetters (count : Nat)
  /-- The last digits in the number of a region before such a joiner. -/
  | joinedTagDigits (count : Nat)
  deriving DecidableEq, Repr

namespace Start

/-- Whether a joiner before this start joins it to an emoji further left. -/
def canBeJoined : Start → Bool
  | .emoji | .flag | .joinedFlag | .joinedFlagLetter | .skinTone => true
  | _ => false

/-- Whether the start is waiting to be joined to an emoji. -/
def isJoined : Start → Bool
  | .joiner | .joinedKeycap => true
  | _ => false

/-- Whether variation selectors may stand before the start without ending
    it. -/
def letsStylesPass : Start → Bool
  | .ligature part => part.isLoose
  | _ => false

end Start

/-- What the text to the right of a character begins with. -/
structure Ahead where
  start : Start
  /-- The variation selectors before `start` that still look for a base. -/
  styles : List Style
  deriving DecidableEq, Repr

namespace Ahead

/-- A start with no selector before it. -/
def of (start : Start) : Ahead := ⟨start, []⟩

/-- Nothing to the right, or nothing that looks back. -/
def nothing : Ahead := .of .plain

/-- What is ahead from one more variation selector on. A joiner is kept for
    an emoji that is drawn so on demand; else only a ligature survives. -/
def withStyle (ahead : Ahead) (style : Style) : Ahead :=
  if ahead.start.letsStylesPass then ⟨ahead.start, style :: ahead.styles⟩
  else if style = .emoji && ahead.start.isJoined then ⟨ahead.start, [.emoji]⟩
  else ⟨.plain, [style]⟩

/-- What is ahead of a character that is no base for U+FE0F. -/
def withoutEmojiStyle (ahead : Ahead) : Ahead :=
  if .emoji ∈ ahead.styles then
    ⟨if ahead.start.letsStylesPass then ahead.start else .plain,
      ahead.styles.filter (· ≠ .emoji)⟩
  else ahead

end Ahead

/-- The quotation marks that a following U+FE01 makes two cells wide. -/
def takesFullWidth (c : Char) : Bool :=
  c = '\u2018' || c = '\u2019' || c = '\u201C' || c = '\u201D'

/-- What a character adds before a start that does not concern it. -/
def measureAlone (c : Char) : Int × Ahead :=
  if isFlagLetter c then (1, .of .flagLetter)
  else if isSkinTone c then (2, .of .skinTone)
  else if isPictograph c then (2, .of .emoji)
  else
    match Ligature.ofLast? c with
    | some part => (cells c, .of (.ligature part))
    | none => (cells c, .nothing)

/-- What a character adds before the joiner U+200D and an emoji. -/
def measureJoined (c : Char) : Int × Ahead :=
  if isFlagLetter c then (1, .of .joinedLetter)
  else if c = '\u20E3' then (0, .of .joinedKeycap)
  else if c = tagEnd then (0, .of (.joinedTagLetters 0))
  else if isSkinTone c then (0, .of .skinTone)
  else if isPictograph c then (0, .of .emoji)
  else measureAlone c

/-- What a character adds before the letters that end the name of a region.
    A name has two letters for the country and one to four more; a number
    may stand before at most four letters. -/
def measureTagLetters (count : Nat) (c : Char) : Int × Ahead :=
  if isTagLetter c && count < 6 then (0, .of (.joinedTagLetters (count + 1)))
  else if isTagDigit c && count ≤ 4 then (0, .of (.joinedTagDigits 1))
  else if c = blackFlag && 3 ≤ count then (0, .of .emoji)
  else measureAlone c

/-- What a character adds before the digits that end the number of a region,
    three in all. -/
def measureTagDigits (count : Nat) (c : Char) : Int × Ahead :=
  if isTagDigit c && count < 3 then (0, .of (.joinedTagDigits (count + 1)))
  else if c = blackFlag && count = 3 then (0, .of .emoji)
  else measureAlone c

/-- What a character past U+00A0 that is no variation selector adds before
    `start`. A joined flag counts its first letter and takes it back with the
    second, so that a whole flag adds nothing. -/
def measureBefore (start : Start) (c : Char) : Int × Ahead :=
  if start.canBeJoined && c = '\u200D' then (0, .of .joiner)
  else
    match start with
    | .ligature part =>
      match part.grow? c with
      | some (added, some part) => (added, .of (.ligature part))
      | some (added, none) => (added, .nothing)
      | none => measureAlone c
    | .skinTone => if takesSkinTone c then (0, .of .emoji) else measureAlone c
    | .flagLetter | .flag => if isFlagLetter c then (1, .of .flag) else measureAlone c
    | .joiner => measureJoined c
    | .joinedLetter | .joinedFlagLetter =>
      if isFlagLetter c then (-1, .of .joinedFlag) else measureAlone c
    | .joinedFlag => if isFlagLetter c then (3, .of .joinedFlagLetter) else measureAlone c
    | .joinedTagLetters count => measureTagLetters count c
    | .joinedTagDigits count => measureTagDigits count c
    | .plain | .lineFeed | .emoji | .joinedKeycap => measureAlone c

/-- What a character adds to the width of the text to its right, and what the
    text that begins with it looks like from the left. -/
def measure (c : Char) (ahead : Ahead) : Int × Ahead :=
  if .emoji ∈ ahead.styles && takesEmojiStyle c then
    (if ahead.start.isJoined then 0 else 2, .of .emoji)
  else
    let ahead := ahead.withoutEmojiStyle
    if c = '\n' then (1, .of .lineFeed)
    else if c = '\r' && ahead.start = .lineFeed then (0, .nothing)
    else if c.toNat ≤ 0xA0 then (1, .nothing)
    else if c = '\uFE0F' then (0, ahead.withStyle .emoji)
    else if c = '\uFE0E' then (0, ahead.withStyle .text)
    else if c = '\uFE01' then (0, ahead.withStyle .fullWidth)
    else if .text ∈ ahead.styles && takesTextStyle c then (1, .nothing)
    else if .fullWidth ∈ ahead.styles && takesFullWidth c then (2, .nothing)
    else measureBefore ahead.start c

/-- The cells a text takes on a terminal. -/
def width (s : String) : Nat :=
  (s.toList.foldr
    (fun c (total, ahead) =>
      let (added, seen) := measure c ahead
      (total + added, seen))
    ((0 : Int), Ahead.nothing)).1.toNat

end Descent.Text
