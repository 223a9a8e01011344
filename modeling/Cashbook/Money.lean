/-
Amounts and balances.

An amount that moves is positive and a balance that is kept is not negative; both
facts are part of the types.  A balance changes by whole amounts, exactly where the
sum or difference can be held and otherwise to the nearest decimal that can.
-/
import Cashbook.Decimal.Numeral

namespace Cashbook

attribute [local instance (high)] instPowNat instNatPowNat Int.instNatPow

namespace Decimal

/-! ### Signs survive rounding -/

theorem roundedShift_nonneg {value : Int} (h : 0 ≤ value) (places : Nat) :
    0 ≤ roundedShift value places :=
  Int.mul_nonneg (Int.sign_nonneg_iff.2 h) (Int.natCast_nonneg _)

theorem coefficient_of_ofParts? {c : Int} {s : Nat} {d : Decimal} (h : ofParts? c s = some d) :
    d.coefficient = c ∧ d.scale = s := by
  unfold ofParts? at h
  split at h
  · injection h with h
    subst h
    exact ⟨rfl, rfl⟩
  · contradiction

theorem units_nonneg_of_coefficient {d : Decimal} (h : 0 ≤ d.coefficient) : 0 ≤ d.units :=
  Int.mul_nonneg h (Int.pow_nonneg (by decide))

/-- What fits a number that is not negative is not negative. -/
theorem units_nonneg_of_fit {value : Int} {scale : Nat} {d : Decimal}
    (h : fit value scale = some d) (hv : 0 ≤ value) : 0 ≤ d.units := by
  obtain ⟨dropped, -, hd⟩ := List.exists_of_findSome?_eq_some h
  apply units_nonneg_of_coefficient
  rw [(coefficient_of_ofParts? hd).1]
  exact roundedShift_nonneg hv dropped

/-- A coefficient carried to a larger scale denotes the same number. -/
theorem units_align {d : Decimal} {scale : Nat} (h : d.scale ≤ scale) (hs : scale ≤ 28) :
    d.coefficient * 10 ^ (scale - d.scale) * 10 ^ (28 - scale) = d.units := by
  have hp : 28 - d.scale = (scale - d.scale) + (28 - scale) := by omega
  rw [units, hp, Int.pow_add, Int.mul_assoc]

/-- A sum that is not negative is not negative after rounding either. -/
theorem units_nonneg_of_add? {a b c : Decimal} (h : a.add? b = some c)
    (hsum : 0 ≤ a.units + b.units) : 0 ≤ c.units := by
  unfold add? at h
  split at h
  · next ha =>
    injection h with h
    subst h
    simpa [units, ha] using hsum
  · have hs : max a.scale b.scale ≤ 28 := Nat.max_le.2 ⟨a.scale_le, b.scale_le⟩
    refine units_nonneg_of_fit h ?_
    have ha := units_align (d := a) (Nat.le_max_left a.scale b.scale) hs
    have hb := units_align (d := b) (Nat.le_max_right a.scale b.scale) hs
    rw [← ha, ← hb, ← Int.add_mul] at hsum
    have hp : (0 : Int) < 10 ^ (28 - max a.scale b.scale) := Int.pow_pos (by decide)
    exact Int.nonneg_of_mul_nonneg_left hsum hp

end Decimal

/-! ### Amounts -/

/-- A positive sum of money. -/
structure Amount where
  value : Decimal
  pos : 0 < value.units
deriving DecidableEq

namespace Amount

/-- The amount of this value, if it is positive. -/
def ofDecimal? (value : Decimal) : Option Amount :=
  if h : 0 < value.units then some ⟨value, h⟩ else none

/-- The number, counted in units of `10 ^ -28`. -/
def units (a : Amount) : Int := a.value.units

end Amount

/-! ### Balances -/

/-- The money that an account holds. -/
structure Balance where
  value : Decimal
  nonneg : 0 ≤ value.units
deriving DecidableEq

namespace Balance

/-- No money. -/
def zero : Balance := ⟨.zero, by decide⟩

/-- The balance of this value, if it is not negative. -/
def ofDecimal? (value : Decimal) : Option Balance :=
  if h : 0 ≤ value.units then some ⟨value, h⟩ else none

/-- The number, counted in units of `10 ^ -28`. -/
def units (b : Balance) : Int := b.value.units

/-- Whether there is no money, at whatever scale. -/
def isZero (b : Balance) : Bool := b.value.isZero

/-- Whether the balance is at least the amount. -/
def Covers (b : Balance) (a : Amount) : Prop := a.value ≤ b.value

instance (b : Balance) (a : Amount) : Decidable (b.Covers a) :=
  inferInstanceAs (Decidable (_ ≤ _))

/-- The balance after an amount came in, if there is a decimal for it. -/
def credit? (b : Balance) (a : Amount) : Option Balance :=
  match h : b.value.add? a.value with
  | some value => some ⟨value, Decimal.units_nonneg_of_add? h (by have := a.pos; have := b.nonneg; omega)⟩
  | none => none

/-- The balance after a covered amount went out, if there is a decimal for it. -/
def debit? (b : Balance) (a : Amount) (covered : b.Covers a) : Option Balance :=
  match h : b.value.sub? a.value with
  | some value => some ⟨value, Decimal.units_nonneg_of_add? h (by
      have hc : a.value.units ≤ b.value.units := covered
      rw [Decimal.units_neg]; omega)⟩
  | none => none

/-- The text of a balance, without zeros at the end of its places. -/
def toText (b : Balance) : String := b.value.normalize.toText

end Balance

end Cashbook
