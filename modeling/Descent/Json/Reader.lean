import Descent.Json.Fault
import Descent.Text.Columns

/-!
# Reading Characters

A reader takes characters from the front of a text and gives a result and
the characters that are left, or the first fault it meets. This module holds
the readers that need no recursion over values: blanks, words, strings and
numbers.

Strings are read twice over. A string that is kept has its escapes resolved,
and a pair of surrogates becomes one character. A string that is skipped is
only followed to its closing quote, so halves of pairs may stand alone there.

A number is kept as an integer while its digits fit 64 bits. The digits that
no longer fit count as a power of ten, and the double is the significand
scaled by the exact powers of ten up to `10 ^ 308`.

## Main definitions

* `Reader`: A reader of characters.
* `next?`, `advance`, `word`: Blanks, single characters and words.
* `stringBody`, `skipString`: Strings, kept or skipped, past the first quote.
* `number`, `skipNumber`: Numbers, kept or skipped.
* `found`: What a value is, for a message about it.
-/

namespace Descent.Json

/-- Takes characters from the front of a text. -/
abbrev Reader := StateT (List Char) (Except Fault)

/-- The characters that may stand between the parts of a document. -/
def isBlank (c : Char) : Bool :=
  c = ' ' || c = '\t' || c = '\n' || c = '\r'

namespace Reader

/-- Skips blanks and shows the character behind them. -/
def next? : Reader (Option Char) := fun cs =>
  let rest := cs.dropWhile isBlank
  .ok (rest.head?, rest)

/-- Takes one character. -/
def advance : Reader Unit := fun cs => .ok ((), cs.drop 1)

/-- Takes these letters and no others. -/
def letters : List Char → List Char → Except Fault (Unit × List Char)
  | [], cs => .ok ((), cs)
  | _ :: _, [] => .error .valueCutOff
  | l :: ls, c :: cs => if l = c then letters ls cs else .error .wordExpected

/-- Takes a word that has been recognised by its first letter. -/
def word (w : String) : Reader Unit := letters w.toList

/-! ## Strings -/

/-- The value of a hexadecimal digit. -/
def hexDigit? (c : Char) : Option Nat :=
  if '0' ≤ c ∧ c ≤ '9' then some (c.toNat - '0'.toNat)
  else if 'a' ≤ c ∧ c ≤ 'f' then some (c.toNat - 'a'.toNat + 10)
  else if 'A' ≤ c ∧ c ≤ 'F' then some (c.toNat - 'A'.toNat + 10)
  else none

/-- The value of four hexadecimal digits. -/
def hexQuad? (a b c d : Char) : Option Nat := do
  return (((← hexDigit? a) * 16 + (← hexDigit? b)) * 16 + (← hexDigit? c)) * 16 +
    (← hexDigit? d)

/-- The fault of an escape with fewer than four characters left for it: the
    text has broken off, unless the characters that are left take the room of
    four digits. -/
def shortEscape (rest : List Char) : Fault :=
  if Text.byteLength rest < 4 then .stringCutOff else .invalidEscape

/-- The character that a backslash and a letter stand for. -/
def escaped? (c : Char) : Option Char :=
  match c with
  | '"' => some '"'
  | '\\' => some '\\'
  | '/' => some '/'
  | 'b' => some '\x08'
  | 'f' => some '\x0c'
  | 'n' => some '\n'
  | 'r' => some '\r'
  | 't' => some '\t'
  | _ => none

/-- The first half of a surrogate pair. -/
def isHighSurrogate (n : Nat) : Bool := 0xD800 ≤ n && n ≤ 0xDBFF

/-- The second half of a surrogate pair. -/
def isLowSurrogate (n : Nat) : Bool := 0xDC00 ≤ n && n ≤ 0xDFFF

/-- The code point of a surrogate pair. -/
def pairValue (high low : Nat) : Nat :=
  (high - 0xD800) * 0x400 + (low - 0xDC00) + 0x10000

/-- What is wrong behind the first half of a surrogate pair when no escape of
    four digits follows it. -/
def brokenPair : List Char → Fault
  | [] => .stringCutOff
  | '\\' :: [] => .stringCutOff
  | '\\' :: 'u' :: rest => shortEscape rest
  | _ => .pairCutOff

/-- Puts a character in front of a string that has been read. -/
def prepend (c : Char) (read : List Char × List Char) : List Char × List Char :=
  (c :: read.1, read.2)

/-- The characters of a string, past its first quote, and what follows its
    last one. -/
def stringChars : List Char → Except Fault (List Char × List Char)
  | [] => .error .stringCutOff
  | '"' :: rest => .ok ([], rest)
  | '\\' :: 'u' :: a :: b :: c :: d :: rest =>
    match hexQuad? a b c d with
    | none => .error .invalidEscape
    | some n =>
      if isLowSurrogate n then .error .loneSurrogate
      else if isHighSurrogate n then
        match rest with
        | '\\' :: 'u' :: a :: b :: c :: d :: rest =>
          match hexQuad? a b c d with
          | none => .error .invalidEscape
          | some low =>
            if isLowSurrogate low then
              prepend (Char.ofNat (pairValue n low)) <$> stringChars rest
            else .error .loneSurrogate
        | rest => .error (brokenPair rest)
      else prepend (Char.ofNat n) <$> stringChars rest
  | '\\' :: 'u' :: rest => .error (shortEscape rest)
  | '\\' :: [] => .error .stringCutOff
  | '\\' :: c :: rest =>
    match escaped? c with
    | some c => prepend c <$> stringChars rest
    | none => .error .invalidEscape
  | c :: rest =>
    if c < ' ' then .error .controlCharacter else prepend c <$> stringChars rest

/-- The text of a string, past its first quote. -/
def stringBody : Reader String := fun cs =>
  match stringChars cs with
  | .ok (chars, rest) => .ok (String.ofList chars, rest)
  | .error fault => .error fault

/-- What follows a string, past its first quote, without a look at what its
    escapes stand for. -/
def pastString : List Char → Except Fault (List Char)
  | [] => .error .stringCutOff
  | '"' :: rest => .ok rest
  | '\\' :: 'u' :: a :: b :: c :: d :: rest =>
    if (hexQuad? a b c d).isSome then pastString rest else .error .invalidEscape
  | '\\' :: 'u' :: rest => .error (shortEscape rest)
  | '\\' :: [] => .error .stringCutOff
  | '\\' :: c :: rest =>
    if (escaped? c).isSome then pastString rest else .error .invalidEscape
  | c :: rest => if c < ' ' then .error .controlCharacter else pastString rest

/-- Skips a string, past its first quote. -/
def skipString : Reader Unit := fun cs =>
  match pastString cs with
  | .ok rest => .ok ((), rest)
  | .error fault => .error fault

/-! ## Numbers -/

/-- A decimal digit. -/
def isDigit (c : Char) : Bool := '0' ≤ c && c ≤ '9'

/-- Takes the digits in front. -/
def digits : Reader (List Char) := fun cs =>
  .ok (cs.takeWhile isDigit, cs.dropWhile isDigit)

/-- Shows the next character, blank or not. -/
def peek? : Reader (Option Char) := fun cs => .ok (cs.head?, cs)

/-- Adds digits to a significand as long as it fits 64 bits, and gives the
    digits from the first one that does not. -/
def absorb : (significand : Nat) → List Char → Nat × List Char
  | significand, [] => (significand, [])
  | significand, d :: ds =>
    let next := significand * 10 + (d.toNat - '0'.toNat)
    if next < 0x10000000000000000 then absorb next ds else (significand, d :: ds)

/-- The value of digits. -/
def digitsValue (ds : List Char) : Nat :=
  Nat.ofDigitChars 10 ds 0

/-- Divides by `10 ^ power`, in steps where the power is no double. -/
def shrink (x : Float) (power : Nat) : Float :=
  if power ≤ 308 then x / Float.ofScientific 1 false power
  else if x == 0 then x
  else shrink (x / Float.ofScientific 1 false 308) (power - 308)
termination_by power

/-- The double nearest to a significand, times a power of ten. -/
def scale (significand : Nat) (exponent : Int) : Except Fault Float :=
  let x := significand.toUInt64.toFloat
  if exponent < 0 then .ok (shrink x exponent.natAbs)
  else if exponent ≤ 308 then
    let scaled := x * Float.ofScientific 1 false exponent.toNat
    if scaled.isInf then .error .numberOutOfRange else .ok scaled
  else if significand = 0 then .ok x
  else .error .numberOutOfRange

/-- The number with these parts: an integer if it has neither a fraction nor
    a power of ten and fits its word, else a double. Zero with a minus sign is
    a double, the only number that has one. -/
def assemble (isNegative : Bool) (significand : Nat) (exponent : Int) (isReal : Bool) :
    Except Fault Number := do
  let n : Int := if isNegative then -significand else significand
  if fits : FitsWord n then
    if !isReal && !(isNegative && significand = 0) then
      return .integer n fits
  let x ← scale significand exponent
  return .real (if isNegative then -x else x)

/-- The digits in front of a point; a zero stands alone. -/
def wholeDigits : Reader (List Char) := do
  match ← digits with
  | [] => throw (if (← peek?).isNone then .valueCutOff else .invalidNumber)
  | ['0'] => return ['0']
  | '0' :: _ => throw .invalidNumber
  | ds => return ds

/-- Digits where at least one is due. -/
def someDigits : Reader (List Char) := do
  match ← digits with
  | [] => throw (if (← peek?).isNone then .valueCutOff else .invalidNumber)
  | ds => return ds

/-- The power of ten behind an `e`, if one is there. -/
def power? : Reader (Option Int) := do
  match ← peek? with
  | some 'e' | some 'E' =>
    advance
    match ← peek? with
    | some '-' => do
      advance
      return some (-digitsValue (← someDigits))
    | some '+' => do
      advance
      return some (digitsValue (← someDigits))
    | _ => return some (digitsValue (← someDigits))
  | _ => return none

/-- The digits behind a point, if one is there. -/
def fraction? : Reader (Option (List Char)) := do
  match ← peek? with
  | some '.' => do
    advance
    return some (← someDigits)
  | _ => return none

/-- Takes a number. -/
def number : Reader Number := do
  let isNegative := (← peek?) = some '-'
  if isNegative then advance
  let (whole, left) := absorb 0 (← wholeDigits)
  let fraction ← fraction?
  let (significand, ignored) := absorb whole (fraction.getD [])
  let power ← power?
  let used : Int := (fraction.getD []).length - ignored.length
  assemble isNegative significand (left.length - used + power.getD 0)
    (fraction.isSome || power.isSome || !left.isEmpty)

/-- Digits where at least one is due, in a number that is skipped. -/
def skipDigits : Reader Unit := do
  if (← digits).isEmpty then throw .invalidNumber

/-- Skips a number; its size is of no interest. -/
def skipNumber : Reader Unit := do
  if (← peek?) = some '-' then advance
  match ← digits with
  | [] => throw .invalidNumber
  | '0' :: _ :: _ => throw .invalidNumber
  | _ =>
    if (← peek?) = some '.' then
      advance
      skipDigits
    match ← peek? with
    | some 'e' | some 'E' =>
      advance
      match ← peek? with
      | some '+' | some '-' => do
        advance
        skipDigits
      | _ => skipDigits
    | _ => return ()

/-! ## Values of no use -/

/-- What stands at the character `c`, which has been seen but not taken. Only
    the first bracket of a container is looked at. -/
def found (c : Char) : Reader Found :=
  match c with
  | 'n' => do
    word "null"
    return .null
  | 't' => do
    word "true"
    return .boolean true
  | 'f' => do
    word "false"
    return .boolean false
  | '"' => do
    advance
    return .string (← stringBody)
  | '[' => return .sequence
  | '\x7b' => return .map
  | _ =>
    if c = '-' || isDigit c then do
      return .number (← number)
    else throw .valueExpected

/-- The fault of a value that is not what is wanted; the value may have a
    fault of its own, which then comes first. -/
def refuse {α : Type} (c : Char) (wanted : String) : Reader α := do
  throw (.wrongType (← found c) wanted)

end Reader

end Descent.Json
