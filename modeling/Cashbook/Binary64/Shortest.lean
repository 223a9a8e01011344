/-
The shortest decimal that reads back as a double.

The reals that round to a double form an interval around it, which holds its ends
where the significand is even.  Grids of powers of ten are tried from coarse to
fine; on each only the two grid points next to the double can lie in the interval.
The first grid that has such a point gives the digits, the nearer one where both
points qualify, and the upper one where they are equally near.
-/
import Cashbook.Binary64
import Cashbook.Text.Digits

namespace Cashbook.Binary64

open Cashbook.Text

attribute [local instance (high)] instPowNat instNatPowNat Int.instNatPow

/-- The interval of reals that round to a double, in quarters of `2 ^ exponent`. -/
structure Neighbourhood where
  /-- The double itself. -/
  centre : Nat
  /-- The lower end. -/
  low : Nat
  /-- The upper end. -/
  high : Nat
  /-- Whether the ends themselves round to the double. -/
  closed : Bool
  /-- The exponent of the quarter unit. -/
  exponent : Int

/-- The reals that round to `x`; below a power of two the spacing is halved. -/
def neighbourhood (x : Binary64) : Neighbourhood :=
  let m := x.significand
  { centre := 4 * m
    low := if m = leadingBit ∧ -1074 < x.exponent then 4 * m - 1 else 4 * m - 2
    high := 4 * m + 2
    closed := m % 2 == 0
    exponent := x.exponent - 2 }

/-- The value `n * 2 ^ exponent`, counted in units of `10 ^ power`. -/
def onGrid (n : Nat) (exponent power : Int) : Nat × Nat :=
  let (num, den) := scaled n 1 (-exponent)
  if 0 ≤ power then (num, den * 10 ^ power.toNat) else (num * 10 ^ (-power).toNat, den)

/-- The point of the grid of `10 ^ power` that reads back as the double, if there is one. -/
def gridPoint? (around : Neighbourhood) (power : Int) : Option Nat :=
  let (centre, unit) := onGrid around.centre around.exponent power
  let (low, _) := onGrid around.low around.exponent power
  let (high, _) := onGrid around.high around.exponent power
  let below := centre / unit
  let above := below + 1
  let inside (k : Nat) : Bool :=
    0 < k && (if around.closed then low ≤ k * unit && k * unit ≤ high
      else low < k * unit && k * unit < high)
  match inside below, inside above with
  | true, true => some (if centre - below * unit < above * unit - centre then below else above)
  | true, false => some below
  | false, true => some above
  | false, false => none

/-- A power of ten above the double: a bound on its decimal exponent, at most two too large. -/
def topPower (x : Binary64) : Int :=
  ((Nat.log2 x.significand : Int) + x.exponent + 1) * 30103 / 100000 + 1

/-- The digits `k` and the power `p` for which `k * 10 ^ p` is the shortest text of the double. -/
def shortest (x : Binary64) : Nat × Int :=
  if x.isZero then (0, 0)
  else
    let around := x.neighbourhood
    let powers := (List.range 21).map fun (i : Nat) => x.topPower - i
    (powers.findSome? fun p => (gridPoint? around p).map fun k => (k, p)).getD (0, 0)

/-- The digits of `k * 10 ^ p` written out in full, without an exponent. -/
def positional (k : Nat) (p : Int) : List Char :=
  if 0 ≤ p then decimalDigits (k * 10 ^ p.toNat)
  else
    let places := (-p).toNat
    let digits := paddedDigits (places + 1) k
    digits.take (digits.length - places) ++ '.' :: digits.drop (digits.length - places)

/-- The shortest text of a double, written out in full. -/
def toChars (x : Binary64) : List Char :=
  let (k, p) := x.shortest
  positional k p

end Cashbook.Binary64
