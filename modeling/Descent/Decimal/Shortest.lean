/-!
# Shortest Decimals

A double stands for every real number that rounds to it. Among those numbers
the one with the fewest decimal digits is the text a reader expects: it reads
back to the same double, and no shorter one does.

The search runs over grids of decimals, the multiples of a power of ten, from
the coarsest to finer ones. The first grid with a point among the numbers
that round to the double holds the shortest decimals; of two such points the
nearer is taken, and the even one if they are equally near. Only the two
neighbours of the double on a grid need a look, since a point between a
neighbour and the end of the interval is further away. All arithmetic is on
natural numbers and exact.

## Main definitions

* `Decimal`: Digits and a power of ten.
* `Rounding`: The numbers that round to one double.
* `Rounding.onGrid?`: The best point of one grid.
* `shortest`: The decimal of a positive double.

## Theorems

* `Rounding.holds_of_onGrid?`: A point that is taken does round to the double.
-/

namespace Descent

/-- The number `digits * 10 ^ exponent`. -/
structure Decimal where
  digits : Nat
  exponent : Int
  deriving DecidableEq, Repr

namespace Decimal

/-- The numbers that round to one positive double, counted in units of
    `2 ^ power`: those from `low` to `high`, the ends included if the double
    wins ties. The double itself is `center`. -/
structure Rounding where
  low : Nat
  center : Nat
  high : Nat
  power : Int
  winsTies : Bool
  deriving DecidableEq, Repr

namespace Rounding

/-- The numbers that round to the double of these bits, its sign ignored. A
    unit is a quarter of the distance to the next double. Below a power of
    two the doubles are twice as dense. -/
def ofBits (bits : UInt64) : Rounding :=
  let fraction := bits.toNat % 0x10000000000000
  let scale := bits.toNat / 0x10000000000000 % 0x800
  let significand := if scale = 0 then fraction else 0x10000000000000 + fraction
  { low := if fraction = 0 && 1 < scale then 4 * significand - 1 else 4 * significand - 2
    center := 4 * significand
    high := 4 * significand + 2
    power := (max scale 1 : Nat) - 1077
    winsTies := significand % 2 = 0 }

/-- The factor that turns a count of units into a count of the fractions that
    units and multiples of `10 ^ exponent` share. -/
def unitFactor (r : Rounding) (exponent : Int) : Nat :=
  Nat.pow 2 r.power.toNat * Nat.pow 10 (-exponent).toNat

/-- The same factor for multiples of `10 ^ exponent`. -/
def gridFactor (r : Rounding) (exponent : Int) : Nat :=
  Nat.pow 10 exponent.toNat * Nat.pow 2 (-r.power).toNat

/-- Whether `digits * 10 ^ exponent` rounds to the double. -/
def holds (r : Rounding) (digits : Nat) (exponent : Int) : Bool :=
  let point := digits * r.gridFactor exponent
  let low := r.low * r.unitFactor exponent
  let high := r.high * r.unitFactor exponent
  if r.winsTies then low ≤ point && point ≤ high else low < point && point < high

/-- The point of the grid of multiples of `10 ^ exponent` that is nearest to
    the double among those that round to it. -/
def onGrid? (r : Rounding) (exponent : Int) : Option Decimal :=
  let center := r.center * r.unitFactor exponent
  let step := r.gridFactor exponent
  let below := center / step
  let preferBelow := 2 * (center - below * step) < step ||
    (2 * (center - below * step) = step && below % 2 = 0)
  if r.holds below exponent && (preferBelow || !r.holds (below + 1) exponent) then
    some ⟨below, exponent⟩
  else if r.holds (below + 1) exponent then
    some ⟨below + 1, exponent⟩
  else
    none

/-- The first hit on `grids` grids, from the multiples of `10 ^ exponent`
    down. -/
def search (r : Rounding) : (grids : Nat) → (exponent : Int) → Option Decimal
  | 0, _ => none
  | grids + 1, exponent => r.onGrid? exponent <|> search r grids (exponent - 1)

/-- A point that is taken does round to the double. -/
theorem holds_of_onGrid? {r : Rounding} {exponent : Int} {d : Decimal}
    (taken : r.onGrid? exponent = some d) :
    d.exponent = exponent ∧ r.holds d.digits exponent = true := by
  simp only [onGrid?] at taken
  split at taken
  · next here =>
    cases taken
    simp only [Bool.and_eq_true] at here
    exact ⟨rfl, here.1⟩
  · split at taken
    · next above =>
      cases taken
      exact ⟨rfl, above⟩
    · cases taken

end Rounding

/-- The shortest decimal that reads back as the double of these bits, its
    sign ignored; zero is its own. No double reaches `10 ^ 309`, and the
    multiples of `10 ^ -324` lie closer than any two doubles. -/
def shortest (bits : UInt64) : Decimal :=
  if bits.toNat % 0x8000000000000000 = 0 then ⟨0, 0⟩
  else ((Rounding.ofBits bits).search 633 308).getD ⟨0, 0⟩

end Decimal

end Descent
