import Descent.Proofs.Json.Rows

/-!
# The Syntax of Documents

A document as a tree of what is written in it. A tree knows more than the
value it stands for: how a number is spelled, which characters of a string
are escaped, and every member of an object, in the order in which they come
and with all repetitions. It does not know the blanks. The texts of a tree
are its lexemes in a row, with blanks in front of any of them.

Trees are what laws about arbitrary texts are stated over: a text with its
members permuted is a text of the tree with its members permuted. Numerals
and strings carry the proof that they follow the grammar, so there is no tree
without a text.

A string may hold halves of surrogate pairs that stand alone. The grammar has
nothing against them, and a string that is skipped may have them, but they
stand for no text.

## Main definitions

* `Numeral`, `Literal`: Numbers and strings as they are spelled.
* `Numeral.reading`, `Literal.reading`: What they stand for.
* `Doc`: The tree of a document.
* `Doc.lexemes`: The pieces of its text that no blank can split.
* `Spaced`, `Doc.IsSpelled`: The texts of a tree.
* `Doc.value?`, `Doc.height`: The value of a tree, and its depth.

## Theorems

* `spaced_append`: Lexemes one after the other are spaced one after the other.
* `row_items`, `row_members`: The insides of containers are rows.
* `height_lt_length`: A text is longer than its tree is high.
-/

namespace Descent.Json

open Reader

/-! ## Numbers -/

/-- Decimal digits, one at least. -/
abbrev Digits := { ds : List Char // ds ≠ [] ∧ ∀ c ∈ ds, isDigit c = true }

/-- A power of ten behind a numeral. -/
structure Power where
  isCapital : Bool
  /-- A sign, if there is one: whether it is a minus. -/
  sign : Option Bool
  digits : Digits

namespace Power

/-- The characters of a power of ten behind its `e`. -/
def signed (p : Power) : List Char :=
  (match p.sign with
    | some true => ['-']
    | some false => ['+']
    | none => []) ++ p.digits.1

/-- The characters of a power of ten. -/
def chars (p : Power) : List Char :=
  (if p.isCapital then 'E' else 'e') :: p.signed

/-- The exponent that is meant. -/
def exponent (p : Power) : Int :=
  if p.sign = some true then -digitsValue p.digits.1 else digitsValue p.digits.1

end Power

/-- A number as it is spelled. -/
structure Numeral where
  isNegative : Bool
  whole : Digits
  /-- A zero in front stands alone. -/
  lead : whole.1 = ['0'] ∨ whole.1.head? ≠ some '0'
  fraction : Option Digits
  power : Option Power

namespace Numeral

/-- The characters behind the whole part. -/
def fractionChars (n : Numeral) : List Char :=
  match n.fraction with
  | some ds => '.' :: ds.1
  | none => []

/-- The characters of the power of ten. -/
def powerChars (n : Numeral) : List Char :=
  match n.power with
  | some p => p.chars
  | none => []

/-- The characters of a numeral behind its sign. -/
def unsignedChars (n : Numeral) : List Char :=
  n.whole.1 ++ (n.fractionChars ++ n.powerChars)

/-- The characters of a numeral. -/
def chars (n : Numeral) : List Char :=
  if n.isNegative then '-' :: n.unsignedChars else n.unsignedChars

theorem chars_ne_nil (n : Numeral) : n.chars ≠ [] := by
  unfold chars unsignedChars
  cases n.isNegative <;> simp [n.whole.2.1]

/-- The digits behind the point, if there are any. -/
def fractionDigits (n : Numeral) : List Char :=
  (n.fraction.map (·.1)).getD []

/-- The number that a numeral stands for, if there is one. -/
def reading (n : Numeral) : Except Fault Number :=
  let (whole, left) := absorb 0 n.whole.1
  let (significand, ignored) := absorb whole n.fractionDigits
  let used : Int := n.fractionDigits.length - ignored.length
  assemble n.isNegative significand
    (left.length - used + ((n.power.map (·.exponent)).getD 0))
    (n.fraction.isSome || n.power.isSome || !left.isEmpty)

end Numeral

/-! ## Strings -/

/-- A character of a string, as it is or by an escape. -/
inductive Piece where
  | plain (c : Char) (isPlain : c ≠ '"' ∧ c ≠ '\\' ∧ ¬ c < ' ')
  | letter (c : Char) (isEscape : (escaped? c).isSome = true)
  | quad (a b c d : Char) (isHex : (hexQuad? a b c d).isSome = true)

namespace Piece

/-- The characters of a piece. -/
def chars : Piece → List Char
  | .plain c _ => [c]
  | .letter c _ => ['\\', c]
  | .quad a b c d _ => ['\\', 'u', a, b, c, d]

end Piece

/-- A string as it is spelled between its quotes. -/
abbrev Literal := List Piece

namespace Literal

/-- The characters of a string between its quotes. -/
def inside (s : Literal) : List Char := s.flatMap Piece.chars

/-- The characters of a string. -/
def chars (s : Literal) : List Char := '"' :: (s.inside ++ ['"'])

/-- The characters that pieces stand for. A quad that is the first half of a
    pair has to be followed by the other half. -/
def resolve : Literal → Except Fault (List Char)
  | [] => .ok []
  | .plain c _ :: rest => (c :: ·) <$> resolve rest
  | .letter c isEscape :: rest => ((escaped? c).get isEscape :: ·) <$> resolve rest
  | .quad a b c d isHex :: rest =>
    let n := (hexQuad? a b c d).get isHex
    if isLowSurrogate n then .error .loneSurrogate
    else if isHighSurrogate n then
      match rest with
      | .quad a b c d isHex :: rest =>
        let low := (hexQuad? a b c d).get isHex
        if isLowSurrogate low then (Char.ofNat (pairValue n low) :: ·) <$> resolve rest
        else .error .loneSurrogate
      | _ => .error .pairCutOff
    else (Char.ofNat n :: ·) <$> resolve rest

/-- The text that a string stands for, if there is one. -/
def reading (s : Literal) : Except Fault String :=
  String.ofList <$> s.resolve

end Literal

/-! ## Trees -/

/-- A document as it is written, but for blanks. -/
inductive Doc where
  | null
  | boolean (b : Bool)
  | number (n : Numeral)
  | string (s : Literal)
  | array (items : List Doc)
  | object (members : List (Literal × Doc))

/-- The comma in front of a part, if it is not the first. -/
def commaLexemes (isFirst : Bool) : List (List Char) :=
  if isFirst then [] else [[',']]

namespace Doc

mutual

/-- The pieces of the text of a tree that no blank can split. -/
def lexemes : Doc → List (List Char)
  | .null => ["null".toList]
  | .boolean true => ["true".toList]
  | .boolean false => ["false".toList]
  | .number n => [n.chars]
  | .string s => [s.chars]
  | .array items => ['['] :: (itemLexemes true items ++ [[']']])
  | .object members => ['\x7b'] :: (memberLexemes true members ++ [['\x7d']])

/-- Items with commas in front of all but the first. -/
def itemLexemes : Bool → List Doc → List (List Char)
  | _, [] => []
  | isFirst, item :: rest => commaLexemes isFirst ++ (item.lexemes ++ itemLexemes false rest)

/-- Members with commas in front of all but the first. -/
def memberLexemes : Bool → List (Literal × Doc) → List (List Char)
  | _, [] => []
  | isFirst, (key, doc) :: rest =>
    commaLexemes isFirst ++ ((key.chars :: [':'] :: doc.lexemes) ++ memberLexemes false rest)

end

mutual

/-- How many containers of a tree are in each other. -/
def height : Doc → Nat
  | .array items => 1 + itemsHeight items
  | .object members => 1 + membersHeight members
  | _ => 0

/-- The greatest height of items. -/
def itemsHeight : List Doc → Nat
  | [] => 0
  | item :: rest => max item.height (itemsHeight rest)

/-- The greatest height of the values of members. -/
def membersHeight : List (Literal × Doc) → Nat
  | [] => 0
  | (_, doc) :: rest => max doc.height (membersHeight rest)

end

mutual

/-- The value of a tree, if its strings and numbers have values. The members
    of an object are put in order, and of two with one key the later stays. -/
def value? : Doc → Option Value
  | .null => some .null
  | .boolean b => some (.boolean b)
  | .number n => n.reading.toOption.map .number
  | .string s => s.reading.toOption.map .string
  | .array items => (itemValues? items).map .array
  | .object members => (memberValues? members []).map .object

/-- The values of items. -/
def itemValues? : List Doc → Option (List Value)
  | [] => some []
  | item :: rest => do
    return (← item.value?) :: (← itemValues? rest)

/-- The values of members, put on those already there. -/
def memberValues? : List (Literal × Doc) → List (String × Value) →
    Option (List (String × Value))
  | [], done => some done
  | (key, doc) :: rest, done => do
    memberValues? rest (putMember (← key.reading.toOption) (← doc.value?) done)

end

end Doc

/-! ## Texts -/

/-- Lexemes one after the other, with blanks in front of any of them. -/
inductive Spaced : List (List Char) → List Char → Prop
  | nil : Spaced [] []
  | cons {gap lexeme : List Char} {rest : List (List Char)} {cs : List Char}
      (hgap : IsGap gap) (hrest : Spaced rest cs) :
      Spaced (lexeme :: rest) (gap ++ (lexeme ++ cs))

/-- The text is one of a tree: its lexemes, with blanks in front of any of
    them and at the end. -/
def Doc.IsSpelled (d : Doc) (text : String) : Prop :=
  ∃ cs gap, text.toList = cs ++ gap ∧ Spaced d.lexemes cs ∧ IsGap gap

theorem spaced_cons {lexeme : List Char} {rest : List (List Char)} {cs : List Char} :
    Spaced (lexeme :: rest) cs ↔
      ∃ gap more, IsGap gap ∧ Spaced rest more ∧ cs = gap ++ (lexeme ++ more) := by
  constructor
  · intro hspaced
    cases hspaced with
    | cons hgap hrest => exact ⟨_, _, hgap, hrest, rfl⟩
  · rintro ⟨gap, more, hgap, hrest, rfl⟩
    exact .cons hgap hrest

/-- Lexemes one after the other are spaced one after the other. -/
theorem spaced_append {front back : List (List Char)} {cs : List Char} :
    Spaced (front ++ back) cs ↔
      ∃ first second, cs = first ++ second ∧ Spaced front first ∧ Spaced back second := by
  induction front generalizing cs with
  | nil =>
      constructor
      · exact fun hspaced => ⟨[], cs, rfl, .nil, hspaced⟩
      · rintro ⟨first, second, rfl, hfirst, hsecond⟩
        cases hfirst
        exact hsecond
  | cons lexeme rest ih =>
      constructor
      · intro hspaced
        rcases spaced_cons.1 hspaced with ⟨gap, more, hgap, hmore, rfl⟩
        rcases ih.1 hmore with ⟨first, second, rfl, hfirst, hsecond⟩
        exact ⟨gap ++ (lexeme ++ first), second, by simp, .cons hgap hfirst, hsecond⟩
      · rintro ⟨first, second, rfl, hfirst, hsecond⟩
        rcases spaced_cons.1 hfirst with ⟨gap, more, hgap, hmore, rfl⟩
        have hrest := ih.2 ⟨more, second, rfl, hmore, hsecond⟩
        have hcs : Spaced (lexeme :: (rest ++ back)) _ := .cons hgap hrest
        simpa using hcs

theorem spaced_singleton {lexeme cs : List Char} :
    Spaced [lexeme] cs ↔ ∃ gap, IsGap gap ∧ cs = gap ++ lexeme := by
  rw [spaced_cons]
  constructor
  · rintro ⟨gap, more, hgap, hmore, rfl⟩
    cases hmore
    exact ⟨gap, hgap, by rw [List.append_nil]⟩
  · rintro ⟨gap, hgap, rfl⟩
    exact ⟨gap, [], hgap, .nil, by rw [List.append_nil]⟩

/-- Blanks make a text longer. -/
theorem Spaced.length_le {lexemes : List (List Char)} {cs : List Char}
    (hcs : Spaced lexemes cs) : lexemes.flatten.length ≤ cs.length := by
  induction hcs with
  | nil => exact Nat.le_refl _
  | cons hgap hrest ih =>
      rw [List.flatten_cons, List.length_append, List.length_append, List.length_append]
      omega

/-- Without any blanks the lexemes are put one behind the other. -/
theorem spaced_flatten (lexemes : List (List Char)) : Spaced lexemes lexemes.flatten := by
  induction lexemes with
  | nil => exact .nil
  | cons lexeme rest ih => exact .cons isGap_nil ih

namespace Doc

/-! ## Rows -/

/-- The lexemes of a member. -/
def lexemesOf (m : Literal × Doc) : List (List Char) :=
  m.1.chars :: [':'] :: m.2.lexemes

theorem isComma_of_spaced (isFirst : Bool) (lead : List Char)
    (hlead : Spaced (commaLexemes isFirst) lead) : IsComma isFirst lead := by
  cases isFirst with
  | true =>
      cases hlead
      rfl
  | false => exact spaced_singleton.1 hlead

/-- The inside of an array is a row of its items. -/
theorem row_items (isFirst : Bool) (items : List Doc) (cs : List Char)
    (hcs : Spaced (itemLexemes isFirst items) cs) :
    Row (fun item cs => Spaced item.lexemes cs) isFirst items cs := by
  induction items generalizing isFirst cs with
  | nil =>
      rw [itemLexemes] at hcs
      cases hcs
      exact .nil isFirst
  | cons item rest ih =>
      rw [itemLexemes] at hcs
      rcases spaced_append.1 hcs with ⟨lead, behind, rfl, hlead, hbehind⟩
      rcases spaced_append.1 hbehind with ⟨text, more, rfl, htext, hmore⟩
      exact .cons (isComma_of_spaced isFirst lead hlead) htext (ih false more hmore)

/-- The inside of an object is a row of its members. -/
theorem row_members (isFirst : Bool) (members : List (Literal × Doc)) (cs : List Char)
    (hcs : Spaced (memberLexemes isFirst members) cs) :
    Row (fun m cs => Spaced (lexemesOf m) cs) isFirst members cs := by
  induction members generalizing isFirst cs with
  | nil =>
      rw [memberLexemes] at hcs
      cases hcs
      exact .nil isFirst
  | cons m rest ih =>
      rw [memberLexemes] at hcs
      rcases spaced_append.1 hcs with ⟨lead, behind, rfl, hlead, hbehind⟩
      rcases spaced_append.1 hbehind with ⟨text, more, rfl, htext, hmore⟩
      exact .cons (isComma_of_spaced isFirst lead hlead) htext (ih false more hmore)

/-- Lexemes between two brackets. -/
theorem spaced_brackets {opening close : Char} {lexemes : List (List Char)} {cs : List Char}
    (hcs : Spaced ([opening] :: (lexemes ++ [[close]])) cs) :
    ∃ gap row closing, cs = gap ++ opening :: (row ++ (closing ++ [close])) ∧ IsGap gap ∧
      Spaced lexemes row ∧ IsGap closing := by
  rcases spaced_cons.1 hcs with ⟨gap, inside, hgap, hinside, rfl⟩
  rcases spaced_append.1 hinside with ⟨row, last, rfl, hrow, hlast⟩
  rcases spaced_singleton.1 hlast with ⟨closing, hclosing, rfl⟩
  exact ⟨gap, row, closing, rfl, hgap, hrow, hclosing⟩

/-- An array in its brackets. -/
theorem spaced_array {items : List Doc} {cs : List Char}
    (hcs : Spaced (lexemes (.array items)) cs) :
    ∃ gap row closing, cs = gap ++ '[' :: (row ++ (closing ++ [']'])) ∧ IsGap gap ∧
      Row (fun item cs => Spaced item.lexemes cs) true items row ∧ IsGap closing := by
  rw [lexemes] at hcs
  rcases spaced_brackets hcs with ⟨gap, row, closing, hsplit, hgap, hrow, hclosing⟩
  exact ⟨gap, row, closing, hsplit, hgap, row_items true items row hrow, hclosing⟩

/-- An object in its braces. -/
theorem spaced_object {members : List (Literal × Doc)} {cs : List Char}
    (hcs : Spaced (lexemes (.object members)) cs) :
    ∃ gap row closing, cs = gap ++ '\x7b' :: (row ++ (closing ++ ['\x7d'])) ∧ IsGap gap ∧
      Row (fun m cs => Spaced (lexemesOf m) cs) true members row ∧ IsGap closing := by
  rw [lexemes] at hcs
  rcases spaced_brackets hcs with ⟨gap, row, closing, hsplit, hgap, hrow, hclosing⟩
  exact ⟨gap, row, closing, hsplit, hgap, row_members true members row hrow, hclosing⟩

/-! ## Heights -/

mutual

/-- Every container has its brackets, so a text is longer than its tree is
    high. -/
theorem height_lt_length : (d : Doc) → d.height < d.lexemes.flatten.length
  | .null | .boolean true | .boolean false => by
      simp [height, lexemes]
  | .string s => by
      simp [height, lexemes, Literal.chars]
  | .number n => by
      simpa [height, lexemes] using List.length_pos_iff.2 n.chars_ne_nil
  | .array items => by
      have hitems := itemsHeight_le_length true items
      simp only [height, lexemes, List.flatten_cons, List.flatten_append, List.flatten_nil,
        List.length_append, List.length_singleton, List.length_nil]
      omega
  | .object members => by
      have hmembers := membersHeight_le_length true members
      simp only [height, lexemes, List.flatten_cons, List.flatten_append, List.flatten_nil,
        List.length_append, List.length_singleton, List.length_nil]
      omega

theorem itemsHeight_le_length :
    (isFirst : Bool) → (items : List Doc) →
      itemsHeight items ≤ (itemLexemes isFirst items).flatten.length
  | _, [] => Nat.zero_le _
  | isFirst, item :: rest => by
      have hitem := height_lt_length item
      have hrest := itemsHeight_le_length false rest
      simp only [itemsHeight, itemLexemes, List.flatten_append, List.length_append]
      omega

theorem membersHeight_le_length :
    (isFirst : Bool) → (members : List (Literal × Doc)) →
      membersHeight members ≤ (memberLexemes isFirst members).flatten.length
  | _, [] => Nat.zero_le _
  | isFirst, (key, doc) :: rest => by
      have hdoc := height_lt_length doc
      have hrest := membersHeight_le_length false rest
      simp only [membersHeight, memberLexemes, List.flatten_append, List.flatten_cons,
        List.length_append]
      omega

end

end Doc

end Descent.Json
