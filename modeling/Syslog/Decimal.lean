import Syslog.Text.Numeral

/-!
# Fixed decimals

A double is a fraction with a power of two below the line or a whole multiple of one. It is written
with a fixed number of places by rounding that fraction exactly, a half to the even neighbour.
-/
namespace Syslog.Decimal
open Text

/-- The quotient rounded to the nearest number, a half to the even one. -/
def roundHalfEven (numerator denominator : Nat) : Nat :=
  let quotient := numerator / denominator
  let twice := 2 * (numerator % denominator)
  if twice < denominator ∨ (twice = denominator ∧ quotient % 2 = 0) then quotient else quotient + 1

/-- The bit of a significand that a double does not store, two to the power of 52. -/
def hiddenBit : Nat := 4503599627370496

/-- The numerator and the denominator of the size of a finite double with the given bits. -/
def fraction (bits : UInt64) : Nat × Nat :=
  let exponent := bits.toNat / hiddenBit % 2048
  let significand := bits.toNat % hiddenBit
  if exponent = 0 then (significand, Nat.pow 2 1074)
  else
    let significand := significand + hiddenBit
    if 1075 ≤ exponent then (significand * Nat.pow 2 (exponent - 1075), 1)
    else (significand, Nat.pow 2 (1075 - exponent))

/-- The digits of a fraction with a point before the last places. -/
def fixedFraction (places numerator denominator : Nat) : Text :=
  let scaled := roundHalfEven (numerator * Nat.pow 10 places) denominator
  ofNat (scaled / Nat.pow 10 places) ++ ['.'] ++ padded places (scaled % Nat.pow 10 places)

/-- The decimal of a finite double that is not negative. -/
def fixed (places : Nat) (x : Float) : Text :=
  let (numerator, denominator) := fraction x.toBits
  fixedFraction places numerator denominator

end Syslog.Decimal
