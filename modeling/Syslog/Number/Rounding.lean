namespace Syslog

/-!
Division of natural numbers with rounding to the nearest integer.

A quotient halfway between two integers goes to the even one.
-/

def roundDiv (numerator denominator : Nat) : Nat :=
  let quotient := numerator / denominator
  let twice := 2 * (numerator % denominator)
  if twice < denominator ∨ (twice = denominator ∧ quotient % 2 = 0) then quotient
  else quotient + 1

end Syslog
