import Descent.Text.Cell

/-!
# Ligatures

Letters of some scripts melt into one shape when they meet, and the shape
takes fewer cells than its letters do apart. A text is measured from its end,
so a ligature is met at its last letter first: `ofLast?` says which ligatures
a letter may end, and `grow?` takes the letters before it one by one.

Marks that have no shape may stand between the letters of a ligature without
parting them. Some ligatures are drawn only if the joiner U+200D stands
between their letters; of these the state says whether the joiner has been
seen.

## Main definitions

* `Ligature`: The part of a ligature that a text begins with.
* `Ligature.ofLast?`: The ligature that a letter may end.
* `Ligature.behindMark?`: The ligature behind a mark that does not part it.
* `Ligature.grow?`: What the character before a ligature adds to its cells.
-/

namespace Descent.Text

/-- The part of a ligature that a text begins with, as far as the letter
    before it cares. -/
inductive Ligature where
  /-- An Arabic alef, perhaps under marks. -/
  | alef
  /-- The Hebrew lamed, and whether the joiner stands before it. -/
  | lamed (isJoined : Bool)
  /-- A Khmer letter that has a form below the line. -/
  | khmerLetter
  /-- The Buginese ya, and whether the joiner stands before it. -/
  | ya (isJoined : Bool)
  /-- The Buginese vowel sign i before a joined ya. -/
  | vowelAndYa
  /-- A Tifinagh consonant, and whether U+200D stands before it. -/
  | consonant (isJoined : Bool)
  /-- The Tifinagh joiner before a consonant. -/
  | joinerAndConsonant
  /-- A Lisu tone letter that ends a pair. -/
  | secondTone
  /-- The Old Turkic letter i, and whether the joiner stands before it. -/
  | orkhonI (isJoined : Bool)
  /-- The Kirat Rai vowel sign e. -/
  | vowelE
  /-- The Kirat Rai vowel sign ai, or twice the vowel sign e. -/
  | vowelAi
  deriving DecidableEq, Repr

/-- The alefs that a lam before them joins. -/
def isAlef (c : Char) : Bool :=
  CodeRanges.has
    [(0x622, 0x623), (0x625, 0x625), (0x627, 0x627), (0x671, 0x673), (0x675, 0x675),
     (0x773, 0x774), (0x870, 0x882)] c

/-- The lams that join an alef after them. -/
def isLam (c : Char) : Bool :=
  CodeRanges.has
    [(0x644, 0x644), (0x6B5, 0x6B8), (0x76A, 0x76A), (0x8A6, 0x8A6), (0x8C7, 0x8C7)] c

/-- The Khmer letters that have a form below the line. -/
def hasFormBelow (c : Char) : Bool :=
  CodeRanges.has
    [(0x1780, 0x1782), (0x1784, 0x1787), (0x1789, 0x178C), (0x178E, 0x1793), (0x1795, 0x1798),
     (0x179B, 0x179D), (0x17A0, 0x17A0), (0x17A2, 0x17A2), (0x17A7, 0x17A7), (0x17AB, 0x17AC),
     (0x17AF, 0x17AF)] c

/-- The Tifinagh consonants that make pairs. -/
def isPairedConsonant (c : Char) : Bool :=
  CodeRanges.has [(0x2D31, 0x2D65), (0x2D6F, 0x2D6F)] c

/-- The Lisu tone letters that begin a pair. -/
def isFirstTone (c : Char) : Bool :=
  CodeRanges.has [(0xA4F8, 0xA4FB)] c

/-- The Lisu tone letters that end a pair. -/
def isSecondTone (c : Char) : Bool :=
  CodeRanges.has [(0xA4FC, 0xA4FD)] c

/-- Marks without a shape, the joiner apart: U+034F, two vowels of Khmer, and
    all variation selectors. -/
def isShapeless (c : Char) : Bool :=
  CodeRanges.has
    [(0x34F, 0x34F), (0x17B4, 0x17B5), (0x180B, 0x180D), (0x180F, 0x180F), (0xFE00, 0xFE0F),
     (0xE0100, 0xE01EF)] c

namespace Ligature

/-- The ligature that a letter may end. -/
def ofLast? (c : Char) : Option Ligature :=
  if isAlef c then some .alef
  else if c = '\u05DC' then some (.lamed false)
  else if hasFormBelow c then some .khmerLetter
  else if c = '\u1A10' then some (.ya false)
  else if isPairedConsonant c then some (.consonant false)
  else if isSecondTone c then some .secondTone
  else if c = Char.ofNat 0x10C03 then some (.orkhonI false)
  else if c = Char.ofNat 0x16D67 then some .vowelE
  else if c = Char.ofNat 0x16D68 then some .vowelAi
  else none

/-- Whether a mark without a shape leaves the ligature together. -/
def isLoose : Ligature → Bool
  | .vowelE | .vowelAi => false
  | _ => true

/-- The ligature behind U+200D. -/
def joined : Ligature → Ligature
  | .lamed _ => .lamed true
  | .ya _ => .ya true
  | .consonant _ => .consonant true
  | .orkhonI _ => .orkhonI true
  | l => l

/-- The ligature behind a mark that takes no cell there and does not part
    it. -/
def behindMark? (l : Ligature) (c : Char) : Option Ligature :=
  if l = .alef then
    if joinsThrough c then some l else none
  else if !l.isLoose then none
  else if c = '\u200D' then some l.joined
  else if isShapeless c then some l
  else none

/-- What the letter before a ligature adds to its cells, and what a letter
    still further left then finds. The letters of a pair under the joiner of
    Tifinagh are counted with the joiner, and the first takes one cell
    back. -/
def grow? (l : Ligature) (c : Char) : Option (Int × Option Ligature) :=
  match l.behindMark? c with
  | some l => some (0, some l)
  | none =>
    match l with
    | .alef => if isLam c then some (0, none) else none
    | .lamed true => if c = '\u05D0' then some (0, none) else none
    | .khmerLetter => if c = '\u17D2' then some (-1, none) else none
    | .ya true => if c = '\u1A17' then some (0, some .vowelAndYa) else none
    | .vowelAndYa => if c = '\u1A15' then some (0, none) else none
    | .consonant isJoined =>
      if c = '\u2D7F' then some (1, some .joinerAndConsonant)
      else if isJoined && isPairedConsonant c then some (0, none)
      else none
    | .joinerAndConsonant => if isPairedConsonant c then some (-1, none) else none
    | .secondTone => if isFirstTone c then some (0, none) else none
    | .orkhonI true => if c = Char.ofNat 0x10C32 then some (0, none) else none
    | .vowelE =>
      if c = Char.ofNat 0x16D63 || c = Char.ofNat 0x16D69 then some (0, none)
      else if c = Char.ofNat 0x16D67 then some (0, some .vowelAi)
      else if c = Char.ofNat 0x16D68 then some (1, some .vowelE)
      else none
    | .vowelAi => if c = Char.ofNat 0x16D63 then some (0, none) else none
    | .lamed false | .ya false | .orkhonI false => none

end Ligature

end Descent.Text
