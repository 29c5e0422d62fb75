import Syslog.Number.Binary64

namespace Syslog

/-!
Decimal numerals of binary numbers.

`Magnitude.shortest` has the fewest digits that read back as the magnitude, and among those
the ones nearest to it.  On the grid of each number of digits only the two neighbours of the
value are candidates: if any point of the grid reads back, so does one of them.
`Magnitude.significant` and `Magnitude.places` round to a given number of digits instead.
-/

/-- The number `coefficient * 10 ^ exponent`. -/
structure Decimal where
  coefficient : Nat
  exponent : Int
deriving DecidableEq

namespace Decimal

def digits (decimal : Decimal) : Text := Text.ofNat decimal.coefficient

/-- The power of ten of the leading digit. -/
def leading (decimal : Decimal) : Int :=
  decimal.exponent + decimal.digits.length - 1

/-- The same number without trailing zeros in the coefficient; `fuel` bounds their count. -/
def trimZeros : (fuel : Nat) → Decimal → Decimal
  | 0, decimal => decimal
  | fuel + 1, decimal =>
    if decimal.coefficient ≠ 0 ∧ decimal.coefficient % 10 = 0 then
      trimZeros fuel ⟨decimal.coefficient / 10, decimal.exponent + 1⟩
    else decimal

end Decimal

namespace Magnitude

/-- How many digits stand before the point of the positive value, less the zeros after it. -/
def pointPosition (magnitude : Magnitude) : Int :=
  let length (number : Nat) : Int := (Text.ofNat number).length
  if magnitude.denominator ≤ magnitude.numerator then
    length (magnitude.numerator / magnitude.denominator)
  else 1 - length ((magnitude.denominator - 1) / magnitude.numerator)

/--
The better neighbour of the value on the grid of multiples of `10 ^ grid`, if one of the two
neighbours reads back.  The values that read back as a magnitude form an interval, which is
closed when the significand is even; in quarters of the last bit it reaches up by two, and
down by two or, just above a power of two, by one.
-/
def neighbour? (magnitude : Magnitude) (grid : Int) : Option Nat :=
  let unit := Nat.pow 10 grid.toNat * Nat.pow 2 (2 - magnitude.exponent).toNat
  let quarters (count : Nat) : Nat :=
    count * Nat.pow 2 (magnitude.exponent - 2).toNat * Nat.pow 10 (-grid).toNat
  let value := quarters (4 * magnitude.significand)
  let below :=
    if magnitude.significand = Nat.pow 2 52 ∧ -1074 < magnitude.exponent then 1 else 2
  let low := quarters (4 * magnitude.significand - below)
  let high := quarters (4 * magnitude.significand + 2)
  let closed := magnitude.significand % 2 = 0
  let down := value / unit
  let downFits : Bool := if closed then low ≤ down * unit else low < down * unit
  let upFits : Bool :=
    if closed then (down + 1) * unit ≤ high else (down + 1) * unit < high
  match downFits, upFits with
  | true, true =>
    let middle := (2 * down + 1) * unit
    if 2 * value < middle ∨ (2 * value = middle ∧ down % 2 = 0) then some down
    else some (down + 1)
  | true, false => some down
  | false, true => some (down + 1)
  | false, false => none

/-- The value rounded to `count` digits. -/
def significant (magnitude : Magnitude) (count : Nat) : Decimal :=
  let grid := magnitude.pointPosition - count
  let coefficient :=
    roundDiv (magnitude.numerator * Nat.pow 10 (-grid).toNat)
      (magnitude.denominator * Nat.pow 10 grid.toNat)
  if coefficient = Nat.pow 10 count then ⟨coefficient / 10, grid + 1⟩ else ⟨coefficient, grid⟩

/-- The value rounded to `count` digits after the point, in units of the last of them. -/
def places (magnitude : Magnitude) (count : Nat) : Nat :=
  roundDiv (magnitude.numerator * Nat.pow 10 count) magnitude.denominator

/-- The shortest numeral of a positive value; seventeen digits always suffice. -/
def shortest (magnitude : Magnitude) : Decimal :=
  let candidate? (count : Nat) : Option Decimal :=
    let grid := magnitude.pointPosition - count
    (magnitude.neighbour? grid).map fun coefficient => ⟨coefficient, grid⟩
  (((List.range 17).findSome? fun index => candidate? (index + 1)).getD
    (magnitude.significant 17)).trimZeros 20

end Magnitude

end Syslog
