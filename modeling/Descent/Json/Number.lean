import Descent.Decimal.Layout

/-!
# Numbers of a Document

A number in a document is an integer as long as it fits 64 bits, with or
without a sign, and a double otherwise. An integer and a double are never the
same number here, even if they have the same value.

## Main definitions

* `Number`: An integer of 64 bits or a double.
* `Number.agrees`: Equality as arithmetic sees it, so that the two zeros of a
  double agree.
* `Number.text`: The text of a number.
-/

namespace Descent.Json

/-- The integers that 64 bits can hold, with or without a sign. -/
abbrev FitsWord (n : Int) : Prop :=
  -0x8000000000000000 ≤ n ∧ n < 0x10000000000000000

/-- A number of a document. -/
inductive Number where
  | integer (n : Int) (fits : FitsWord n)
  | real (x : Float)
  deriving DecidableEq

namespace Number

/-- Equality of numbers: doubles are compared as arithmetic does. -/
def agrees : Number → Number → Bool
  | .integer m _, .integer n _ => m = n
  | .real x, .real y => x == y
  | _, _ => false

/-- A double is written positionally from `0.00001` up to sixteen digits
    before the point. -/
def layout : Decimal.Layout := ⟨-5, 15⟩

/-- The text of a double: the shortest decimal that reads back. -/
def realText (x : Float) : String :=
  let bits := x.toBits
  let magnitude := (Decimal.shortest bits).text layout
  if bits.toNat < 0x8000000000000000 then magnitude else "-" ++ magnitude

/-- The text of a number. -/
def text : Number → String
  | .integer n _ => toString n
  | .real x => realText x

end Number

end Descent.Json
