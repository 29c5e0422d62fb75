import Syslog.Number.Layout

namespace Syslog

/-!
Numerals with a given number of digits.

Integers are written in a base with a least number of digits; floating-point numbers with a
fixed number of places, with an exponent, or in whichever of the two is shorter for the number
of significant digits.
-/

namespace Numeral

/-- An integer in a base: its sign, the mark of the base if asked for, and enough digits. -/
def integer (base : Nat) (mark : Text) (digits : Nat) (number : Int) : Text :=
  let sign : Text := if number < 0 then "-" else []
  sign ++ mark ++ Text.padLeft digits '0' (Text.inBase base number.natAbs)

/-- Splits a row of digits before the last `places`, with a point between. -/
def pointBefore (places : Nat) (keepPoint : Bool) (digits : Text) : Text :=
  let digits := Text.padLeft (places + 1) '0' digits
  let whole := digits.take (digits.length - places)
  if places = 0 ∧ !keepPoint then whole
  else whole ++ CodePoint.ofChar '.' :: digits.drop (digits.length - places)

/-- The most places that the value of a magnitude takes. -/
def placesLimit : Nat := 1074

def fixedPlaces (places : Nat) (keepPoint : Bool) (magnitude : Magnitude) : Text :=
  let taken := min places placesLimit
  let digits := Text.padLeft (taken + 1) '0' (Text.ofNat (magnitude.places taken))
  pointBefore places keepPoint (digits.padRight (digits.length + (places - taken)) '0')

/-- The most significant digits that the value of a magnitude takes. -/
def significantLimit : Nat := 767

/-- The digits and the exponent of the first, rounded to `count` digits. -/
def rounded (count : Nat) (magnitude : Magnitude) : Text × Int :=
  if magnitude.isZero then (List.replicate count (.ofChar '0'), 0)
  else
    let decimal := magnitude.significant (min count significantLimit)
    (decimal.digits.padRight count '0', decimal.leading)

/-- A first digit, `places` more, and an exponent of at least two digits. -/
def withExponent (digits : Text) (exponent : Int) (keepPoint : Bool) : Text :=
  pointBefore (digits.length - 1) keepPoint digits ++ Decimal.exponentText 2 exponent

def scientific (places : Nat) (keepPoint : Bool) (magnitude : Magnitude) : Text :=
  let (digits, exponent) := rounded (places + 1) magnitude
  withExponent digits exponent keepPoint

/-- Zeros at the end of a fraction say nothing. -/
def withoutTrailingZeros (digits : Text) (least : Nat) : Text :=
  digits.take least ++ Text.dropEndWhile (· = .ofChar '0') (digits.drop least)

/--
Significant digits, written with an exponent if that is below minus four or not below the
number of digits.  Trailing zeros of the fraction are dropped unless the form is `full`.
-/
def general (count : Nat) (full : Bool) (magnitude : Magnitude) : Text :=
  let count := max count 1
  let (digits, exponent) := rounded (if full then count else min count significantLimit) magnitude
  if exponent < -4 ∨ exponent ≥ count then
    withExponent (if full then digits else withoutTrailingZeros digits 1) exponent full
  else
    let before := (exponent + 1).toNat
    let digits := List.replicate (-exponent).toNat (.ofChar '0') ++ digits
    let least := max before 1
    let digits := if full then digits else withoutTrailingZeros digits least
    pointBefore (digits.length - least) full digits

end Numeral

end Syslog
