/-
Decimal numbers as the ledger keeps them.

A decimal is a coefficient below `2 ^ 96` and a scale of at most twenty-eight: the
number `coefficient / 10 ^ scale`.  The scale is part of the record (`1.50` is kept
apart from `1.5`), but the order and the arithmetic look at the number alone, which
`units` states exactly: every decimal is a whole number of units of `10 ^ -28`.

A sum is exact wherever some coefficient can hold it at the larger of the two
scales.  Where none can, `fit` gives up places one at a time and rounds to the
nearest, ties to even, until the coefficient fits; when no places are left there is
no sum.
-/
import Cashbook.Rounding

namespace Cashbook

attribute [local instance (high)] instPowNat instNatPowNat Int.instNatPow

/-- Coefficients are below `2 ^ 96`. -/
def Decimal.limit : Nat := 79228162514264337593543950336

/-- The number `coefficient / 10 ^ scale`. -/
structure Decimal where
  coefficient : Int
  scale : Nat
  coefficient_lt : coefficient.natAbs < Decimal.limit
  scale_le : scale ≤ 28
deriving DecidableEq

namespace Decimal

/-! ### The number that a decimal denotes -/

/-- The number, counted in units of `10 ^ -28`. -/
def units (d : Decimal) : Int :=
  d.coefficient * 10 ^ (28 - d.scale)

instance : LE Decimal := ⟨fun a b => a.units ≤ b.units⟩

instance : LT Decimal := ⟨fun a b => a.units < b.units⟩

instance (a b : Decimal) : Decidable (a ≤ b) := inferInstanceAs (Decidable (a.units ≤ b.units))

instance (a b : Decimal) : Decidable (a < b) := inferInstanceAs (Decidable (a.units < b.units))

/-! ### Construction -/

/-- The decimal with these parts, where there is room for them. -/
def ofParts? (coefficient : Int) (scale : Nat) : Option Decimal :=
  if h : coefficient.natAbs < limit ∧ scale ≤ 28 then
    some ⟨coefficient, scale, h.1, h.2⟩
  else none

/-- Zero with no decimal places. -/
def zero : Decimal := ⟨0, 0, by decide, by decide⟩

instance : Inhabited Decimal := ⟨zero⟩

/-- Whether the number is zero, at whatever scale. -/
def isZero (d : Decimal) : Bool := d.coefficient == 0

/-- The opposite number at the same scale. -/
def neg (d : Decimal) : Decimal :=
  ⟨-d.coefficient, d.scale, by rw [Int.natAbs_neg]; exact d.coefficient_lt, d.scale_le⟩

/-- `value / 10 ^ places` to the nearest whole number, ties to even, whatever its sign. -/
def roundedShift (value : Int) (places : Nat) : Int :=
  value.sign * (roundHalfEven value.natAbs (10 ^ places) : Nat)

/-- The decimal nearest to `value / 10 ^ scale` at the largest scale that has room for it. -/
def fit (value : Int) (scale : Nat) : Option Decimal :=
  (List.range (scale + 1)).findSome? fun dropped =>
    ofParts? (roundedShift value dropped) (scale - dropped)

/-! ### Arithmetic -/

/-- The sum, exact where it fits; zero on the left leaves the other number as it was written. -/
def add? (a b : Decimal) : Option Decimal :=
  if a.coefficient = 0 then some b
  else
    let scale := max a.scale b.scale
    fit (a.coefficient * 10 ^ (scale - a.scale) + b.coefficient * 10 ^ (scale - b.scale)) scale

/-- The difference, exact where it fits. -/
def sub? (a b : Decimal) : Option Decimal :=
  a.add? b.neg

/-- The number with these parts and no zero at the end of its decimal places. -/
def withoutTrailingZeros (coefficient : Int) :
    (scale : Nat) → coefficient.natAbs < limit → scale ≤ 28 → Decimal
  | 0, hc, hs => ⟨coefficient, 0, hc, hs⟩
  | scale + 1, hc, hs =>
    if coefficient % 10 = 0 then
      withoutTrailingZeros (coefficient / 10) scale (by omega) (by omega)
    else ⟨coefficient, scale + 1, hc, hs⟩

/-- The same number with no zero at the end of its decimal places. -/
def normalize (d : Decimal) : Decimal :=
  withoutTrailingZeros d.coefficient d.scale d.coefficient_lt d.scale_le

/-! ### What the operations do to the number -/

theorem units_neg (d : Decimal) : d.neg.units = -d.units := by
  show -d.coefficient * 10 ^ (28 - d.scale) = -(d.coefficient * 10 ^ (28 - d.scale))
  exact Int.neg_mul _ _

theorem isZero_iff {d : Decimal} : d.isZero = true ↔ d.units = 0 := by
  have h : (10 : Int) ^ (28 - d.scale) ≠ 0 := Int.pow_ne_zero (by decide)
  rw [isZero, units, beq_iff_eq, Int.mul_eq_zero]
  exact ⟨Or.inl, fun hz => hz.resolve_right h⟩

theorem roundedShift_zero (value : Int) : roundedShift value 0 = value := by
  have h : roundHalfEven value.natAbs 1 = value.natAbs := by
    have h := roundHalfEven_mul value.natAbs (d := 1) (by decide)
    rwa [Nat.mul_one] at h
  rw [roundedShift, Nat.pow_zero, h]
  exact Int.sign_mul_natAbs value

/-- What fits as it stands is kept as it stands. -/
theorem fit_of_fits {value : Int} {scale : Nat} (hv : value.natAbs < limit) (hs : scale ≤ 28) :
    fit value scale = some ⟨value, scale, hv, hs⟩ := by
  have h : ofParts? (roundedShift value 0) (scale - 0) = some ⟨value, scale, hv, hs⟩ := by
    rw [roundedShift_zero, Nat.sub_zero, ofParts?, dif_pos ⟨hv, hs⟩]
  rw [fit, List.range_succ_eq_map, List.findSome?_cons, h]

theorem units_withoutTrailingZeros (coefficient : Int) (scale : Nat)
    (hc : coefficient.natAbs < limit) (hs : scale ≤ 28) :
    (withoutTrailingZeros coefficient scale hc hs).units = coefficient * 10 ^ (28 - scale) := by
  induction scale generalizing coefficient with
  | zero => rfl
  | succ scale ih =>
    unfold withoutTrailingZeros
    split
    · rw [ih]
      have hp : 28 - scale = (28 - (scale + 1)) + 1 := by omega
      have hd : coefficient / 10 * 10 = coefficient := by omega
      rw [hp, Int.pow_succ, Int.mul_comm (10 ^ _) 10, ← Int.mul_assoc, hd]
    · rfl

/-- Dropping zeros does not change the number. -/
theorem units_normalize (d : Decimal) : d.normalize.units = d.units :=
  units_withoutTrailingZeros _ _ _ _

end Decimal

end Cashbook
