import Descent.Decimal.Shortest

/-!
# The Text of a Decimal

A decimal can be written with a point among its digits or with an explicit
power of ten. Which of the two is a matter of taste, and a layout records it:
the powers of ten of the leading digit that are written with a point. A
number with a point always has a digit on both sides of it; an explicit
power always has a sign.

## Main definitions

* `Layout`: Which decimals are written positionally.
* `Decimal.text`: The text of a decimal under a layout.
-/

namespace Descent

namespace Decimal

/-- The least and the greatest power of ten of a leading digit that is
    written positionally. -/
structure Layout where
  least : Int
  greatest : Int
  deriving DecidableEq, Repr

/-- The power of ten of the leading one of these digits. -/
def leadingPower (digits : List Char) (exponent : Int) : Int :=
  exponent + digits.length - 1

/-- Digits with a point among them. -/
def positional (digits : List Char) (exponent : Int) : List Char :=
  let power := leadingPower digits exponent
  if 0 ≤ exponent then
    digits ++ List.replicate exponent.toNat '0' ++ ['.', '0']
  else if 0 ≤ power then
    digits.take (power.toNat + 1) ++ '.' :: digits.drop (power.toNat + 1)
  else
    ['0', '.'] ++ List.replicate (-power - 1).toNat '0' ++ digits

/-- Digits with an explicit power of ten. -/
def scientific (digits : List Char) (exponent : Int) : List Char :=
  let power := leadingPower digits exponent
  let fraction := if digits.length = 1 then [] else '.' :: digits.drop 1
  digits.take 1 ++ fraction ++ ['e', if power < 0 then '-' else '+'] ++
    Nat.toDigits 10 power.natAbs

/-- The text of a decimal. -/
def text (layout : Layout) (d : Decimal) : String :=
  let digits := Nat.toDigits 10 d.digits
  let power := leadingPower digits d.exponent
  String.ofList <|
    if layout.least ≤ power && power ≤ layout.greatest then positional digits d.exponent
    else scientific digits d.exponent

end Decimal

end Descent
