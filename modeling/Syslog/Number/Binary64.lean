import Syslog.Number.Rounding
import Syslog.Text.Blank
import Syslog.Text.Digit

namespace Syslog

/-!
Binary floating-point numbers of 64 bits, as exact values.

A finite number is a sign and a magnitude `significand * 2 ^ exponent`.  Each magnitude has
one pair of these only: the significand has all of its 53 bits unless the exponent is the
least one.  No machine arithmetic is used anywhere; rounding is done on exact quotients, with
powers written as `Nat.pow`.
-/

structure Magnitude where
  significand : Nat
  exponent : Int
  significand_lt : significand < Nat.pow 2 53
  exponent_ge : -1074 ≤ exponent
  exponent_le : exponent ≤ 971
  normal : Nat.pow 2 52 ≤ significand ∨ exponent = -1074
deriving DecidableEq

inductive Binary64
  | nan
  | infinite (negative : Bool)
  | finite (negative : Bool) (magnitude : Magnitude)
deriving DecidableEq

namespace Magnitude

def zero : Magnitude :=
  ⟨0, -1074, by decide, by decide, by decide, Or.inr rfl⟩

def isZero (magnitude : Magnitude) : Bool := magnitude.significand == 0

def ofParts? (significand : Nat) (exponent : Int) : Option Magnitude :=
  if h : (significand < Nat.pow 2 53 ∧ -1074 ≤ exponent) ∧
      (exponent ≤ 971 ∧ (Nat.pow 2 52 ≤ significand ∨ exponent = -1074)) then
    some ⟨significand, exponent, h.1.1, h.1.2, h.2.1, h.2.2⟩
  else none

/-- The numerator of the value; the denominator is `Magnitude.denominator`. -/
def numerator (magnitude : Magnitude) : Nat :=
  magnitude.significand * Nat.pow 2 magnitude.exponent.toNat

def denominator (magnitude : Magnitude) : Nat :=
  Nat.pow 2 (-magnitude.exponent).toNat

/-- The quotient `numerator / denominator` in units of `2 ^ exponent`, rounded. -/
private def scaled (numerator denominator : Nat) (exponent : Int) : Nat :=
  roundDiv (numerator * Nat.pow 2 (-exponent).toNat) (denominator * Nat.pow 2 exponent.toNat)

/--
The magnitude nearest to a quotient, or `none` if that is beyond the greatest one.  The first
guess at the exponent is right or one too high, and rounding up may carry into a further bit.
-/
def nearest? (numerator denominator : Nat) : Option Magnitude :=
  if numerator = 0 then some zero
  else
    let guess : Int := (numerator.log2 : Int) - denominator.log2 - 52
    let tooHigh : Bool :=
      numerator * Nat.pow 2 (-guess).toNat / (denominator * Nat.pow 2 guess.toNat) <
        Nat.pow 2 52
    let exponent := max (-1074) (if tooHigh then guess - 1 else guess)
    let significand := scaled numerator denominator exponent
    if significand = Nat.pow 2 53 then ofParts? (Nat.pow 2 52) (exponent + 1)
    else ofParts? significand exponent

end Magnitude

namespace Binary64

/-- The number nearest to a quotient with the given sign. -/
def ofRatio (negative : Bool) (numerator denominator : Nat) : Binary64 :=
  match Magnitude.nearest? numerator denominator with
  | some magnitude => .finite negative magnitude
  | none => .infinite negative

def isZero : Binary64 → Bool
  | .finite _ magnitude => magnitude.isZero
  | _ => false

/-- The value as a signed numerator over a power of two. -/
def ratio? : Binary64 → Option (Int × Nat)
  | .finite negative magnitude =>
    let numerator : Int := magnitude.numerator
    some (if negative then -numerator else numerator, magnitude.denominator)
  | _ => none

/-- Decimal digits of any script with single underscores between them: value and count. -/
def digitGroups? (text : Text) : Option (Nat × Nat) :=
  let (head, tail) := Text.parts '_' text
  let groups := head :: tail
  if tail.isEmpty && head.isEmpty then some (0, 0)
  else if groups.any List.isEmpty then none
  else
    groups.flatten.foldlM
      (fun read c => c.decimal?.map fun digit => (read.1 * 10 + digit, read.2 + 1)) (0, 0)

/-- Splits off a leading sign. -/
def signed : Text → Bool × Text
  | [] => (false, [])
  | c :: rest =>
    if c = '-' then (true, rest) else if c = '+' then (false, rest) else (false, c :: rest)

/--
Reads an unsigned decimal numeral with an optional fraction and exponent.  Exponents that put
the value out of range for certain are not multiplied out.
-/
def readUnsigned? (negative : Bool) (text : Text) : Option Binary64 :=
  let isExponentMark (c : CodePoint) : Bool := c = 'e' || c = 'E'
  let (mantissa, mark) := text.span (!isExponentMark ·)
  let (whole, point) := mantissa.span (· ≠ .ofChar '.')
  do
    let (wholeValue, wholeCount) ← digitGroups? whole
    let (fraction, fractionCount) ← digitGroups? (point.drop 1)
    if wholeCount + fractionCount = 0 then none
    let exponent ← match mark with
      | [] => some (0 : Int)
      | _ :: rest => do
        let (negativeExponent, digits) := signed rest
        let (value, count) ← digitGroups? digits
        if count = 0 then none
        some (if negativeExponent then -(value : Int) else value)
    let coefficient := wholeValue * Nat.pow 10 fractionCount + fraction
    let scale := exponent - fractionCount
    let length : Int := wholeCount + fractionCount
    if coefficient = 0 ∨ scale + length < -400 then some (.finite negative .zero)
    else if scale > 400 then some (.infinite negative)
    else
      some (ofRatio negative (coefficient * Nat.pow 10 scale.toNat) (Nat.pow 10 (-scale).toNat))

/-- Reads a numeral, or one of the names of the infinities and of the number that is none. -/
def read? (text : Text) : Option Binary64 :=
  let (negative, unsigned) := signed text.trimmed
  let name := unsigned.map fun c => if c.within 'A' 'Z' then .ofNat (c.val + 32) else c
  if name = Text.ofString "nan" then some .nan
  else if name = Text.ofString "inf" ∨ name = Text.ofString "infinity" then
    some (.infinite negative)
  else readUnsigned? negative unsigned

end Binary64

end Syslog
