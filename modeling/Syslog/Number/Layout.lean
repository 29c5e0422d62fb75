import Syslog.Number.Decimal

namespace Syslog

/-!
The written form of floating-point numbers.

A layout decides which exponents are written positionally and how an exponent is spelled.  Two
layouts are in use: `Layout.display` for texts and error messages, `Layout.json` for JSON.
-/

/-- When a number is written positionally, and how many digits an exponent has at least. -/
structure Layout where
  leastPositional : Int
  greatestPositional : Int
  exponentWidth : Nat
deriving DecidableEq

/-- Positional from 0.0001 to below 10^16, else an exponent of at least two digits. -/
def Layout.display : Layout := ⟨-4, 15, 2⟩

/-- Positional from 0.00001 to below 10^16, else an exponent without leading zeros. -/
def Layout.json : Layout := ⟨-5, 15, 1⟩

namespace Decimal

/-- The exponent mark, a sign and at least `width` digits. -/
def exponentText (width : Nat) (exponent : Int) : Text :=
  let sign : CodePoint := if exponent < 0 then '-' else '+'
  CodePoint.ofChar 'e' :: sign :: Text.padLeft width '0' (Text.ofNat exponent.natAbs)

/-- The first digit, and the others behind a point if there are any. -/
def pointed : Text → Text
  | [] => []
  | [digit] => [digit]
  | digit :: rest => digit :: CodePoint.ofChar '.' :: rest

/-- Digits around a point, with at least one on each side of it. -/
def positional (decimal : Decimal) : Text :=
  let digits := decimal.digits
  let before := decimal.leading + 1
  if before ≤ 0 then
    Text.ofString "0." ++ List.replicate (-before).toNat (.ofChar '0') ++ digits
  else if digits.length ≤ before.toNat then
    Text.padRight before.toNat '0' digits ++ Text.ofString ".0"
  else digits.take before.toNat ++ CodePoint.ofChar '.' :: digits.drop before.toNat

def written (layout : Layout) (decimal : Decimal) : Text :=
  let leading := decimal.leading
  if layout.leastPositional ≤ leading ∧ leading ≤ layout.greatestPositional then
    decimal.positional
  else pointed decimal.digits ++ exponentText layout.exponentWidth leading

end Decimal

/-- The shortest numeral that reads back, or `none` for the numbers that are not finite. -/
def Binary64.written? (layout : Layout) : Binary64 → Option Text
  | .finite negative magnitude =>
    let unsigned :=
      if magnitude.isZero then Text.ofString "0.0" else magnitude.shortest.written layout
    some (if negative then CodePoint.ofChar '-' :: unsigned else unsigned)
  | _ => none

/-- The displayed form of any number. -/
def Binary64.shown (number : Binary64) : Text :=
  match number.written? .display, number with
  | some text, _ => text
  | none, .infinite true => "-inf"
  | none, .infinite false => "inf"
  | none, _ => "nan"

end Syslog
