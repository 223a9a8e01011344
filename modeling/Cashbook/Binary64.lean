/-
Double-precision numbers, without the machine's own.

A finite double that is not negative is a whole number below `2 ^ 53` times a power
of two no smaller than `2 ^ -1074`.  Every operation takes the exact fraction and
rounds it once, to nearest with ties to even, so that what a double holds is a fact
about natural numbers.
-/
import Cashbook.Rounding

namespace Cashbook

/-- The number `significand * 2 ^ exponent`. -/
structure Binary64 where
  significand : Nat
  exponent : Int
deriving DecidableEq

namespace Binary64

attribute [local instance (high)] instPowNat instNatPowNat Int.instNatPow

/-- The leading bit of a full significand: `2 ^ 52`. -/
def leadingBit : Nat := 4503599627370496

/-- Zero. -/
def zero : Binary64 := ⟨0, -1074⟩

/-- Whether the number is zero. -/
def isZero (x : Binary64) : Bool := x.significand == 0

/-- The fraction `(num / den) / 2 ^ exponent`, as a numerator and a denominator. -/
def scaled (num den : Nat) (exponent : Int) : Nat × Nat :=
  if 0 ≤ exponent then (num, den * 2 ^ exponent.toNat)
  else (num * 2 ^ (-exponent).toNat, den)

/-- The exponent at which `num / den` has a significand of fifty-three bits, or the least one. -/
def exponentFor (num den : Nat) : Int :=
  let guess : Int := (Nat.log2 num : Int) - (Nat.log2 den : Int) - 52
  let (n, d) := scaled num den guess
  max (if n < d * leadingBit then guess - 1 else guess) (-1074)

/-- The double with this significand, of which one that has become too long is carried over. -/
def carry (significand : Nat) (exponent : Int) : Binary64 :=
  if significand = 2 * leadingBit then ⟨leadingBit, exponent + 1⟩ else ⟨significand, exponent⟩

/-- The double itself, if it is not beyond the largest. -/
def finite? (x : Binary64) : Option Binary64 :=
  if x.exponent ≤ 971 then some x else none

/-- The double nearest to `num / den`, if it is not beyond the largest. -/
def nearest? (num den : Nat) : Option Binary64 :=
  if num = 0 then some zero
  else
    let exponent := exponentFor num den
    let (n, d) := scaled num den exponent
    finite? (carry (roundHalfEven n d) exponent)

/-- The exact value as a numerator and a denominator. -/
def fraction (x : Binary64) : Nat × Nat :=
  scaled x.significand 1 (-x.exponent)

/-- The rounded product. -/
def mul? (x y : Binary64) : Option Binary64 :=
  let (xn, xd) := x.fraction
  let (yn, yd) := y.fraction
  nearest? (xn * yn) (xd * yd)

/-- The rounded quotient; the divisor is not zero. -/
def div? (x y : Binary64) : Option Binary64 :=
  let (xn, xd) := x.fraction
  let (yn, yd) := y.fraction
  nearest? (xn * yd) (xd * yn)

end Binary64

end Cashbook
