/-
What the text of a double is read as.

The shortest text of a double is a row of digits like any other.  Where a decimal has room
for it, it is read as exactly the number that the text denotes; and where it has none for
what stands in front of the point, it is not read at all.
-/
import Mathlib.Algebra.Order.Field.Power
import Mathlib.Tactic.NormNum
import Mathlib.Tactic.Positivity
import Mathlib.Tactic.Ring
import Cashbook.Csv.Operations
import Cashbook.Proofs.Decimal.Text

namespace Cashbook

open Cashbook.Text

attribute [local instance (high)] instPowNat instNatPowNat Int.instNatPow

/-- The number that a decimal denotes. -/
def Decimal.value (d : Decimal) : ℚ := d.coefficient / 10 ^ d.scale

/-- Minus one for what is negative, and one for what is not. -/
def factor (negative : Bool) : ℚ := if negative then -1 else 1

theorem cast_signed (negative : Bool) (k : Nat) : (Decimal.signed negative k : ℚ) = factor negative * k := by
  cases negative <;> simp [Decimal.signed, factor]

theorem factor_ne_zero (negative : Bool) : factor negative ≠ 0 := by
  cases negative <;> norm_num [factor]

theorem abs_factor (negative : Bool) : |factor negative| = 1 := by
  cases negative <;> norm_num [factor]

namespace Binary64

/-- The text of a double is a row of digits that is worth what the double is. -/
theorem exists_positional (k : Nat) (power : Int) :
    ∃ ds, (∀ d ∈ ds, d < 10) ∧ ofDigits 10 ds = k * 10 ^ power.toNat ∧ (-power).toNat < ds.length ∧
      positional k power = Decimal.written (ds.take (ds.length - (-power).toNat))
        (ds.drop (ds.length - (-power).toNat)) := by
  by_cases hpower : 0 ≤ power
  · obtain ⟨ds, hds, hall, hvalue, hne⟩ := exists_decimalDigits (k * 10 ^ power.toNat)
    have hplaces : (-power).toNat = 0 := by omega
    refine ⟨ds, hall, hvalue, by rw [hplaces]; exact List.length_pos_iff.2 hne, ?_⟩
    rw [positional, if_pos hpower, hds, hplaces, Nat.sub_zero, List.take_length, List.drop_length,
      Decimal.written, if_pos rfl, List.append_nil]
  · obtain ⟨ds, hds, hall, hvalue, hlength, -⟩ := exists_paddedDigits ((-power).toNat + 1) k
    have hwhole : power.toNat = 0 := by omega
    refine ⟨ds, hall, by rw [hvalue, hwhole, Nat.pow_zero, Nat.mul_one], hlength, ?_⟩
    rw [positional, if_neg hpower, ← Decimal.written_take_drop hlength, ← hds,
      if_neg (show (-power).toNat ≠ 0 by omega)]

variable {x : Binary64} {k : Nat} {power : Int}

theorem toChars_eq (hshortest : x.shortest = (k, power)) : x.toChars = positional k power := by
  rw [toChars, hshortest]

/-- The shortest text is read as the decimal that it denotes, if there is room for it. -/
theorem decimalOfDouble?_eq (negative : Bool) (hshortest : x.shortest = (k, power)) (hscale : -28 ≤ power)
    (hlimit : k * 10 ^ power.toNat < Decimal.limit) :
    Numeral.decimalOfDouble? negative x =
      Decimal.ofParts? (Decimal.signed negative (k * 10 ^ power.toNat)) (-power).toNat := by
  obtain ⟨ds, hall, hvalue, hlength, htext⟩ := exists_positional k power
  rw [Numeral.decimalOfDouble?, toChars_eq hshortest, htext,
    Decimal.parseChars?_take_drop negative hall hvalue hlength (by omega) hlimit]

/-- A text that is beyond the largest decimal is not read as one. -/
theorem decimalOfDouble?_eq_none (negative : Bool) (hshortest : x.shortest = (k, power))
    (hpower : 0 ≤ power) (hlimit : Decimal.limit ≤ k * 10 ^ power.toNat) :
    Numeral.decimalOfDouble? negative x = none := by
  obtain ⟨ds, hall, hvalue, hlength, htext⟩ := exists_positional k power
  have hplaces : (-power).toNat = 0 := by omega
  rw [hplaces] at hlength htext
  rw [Nat.sub_zero, List.take_length, List.drop_length] at htext
  rw [Numeral.decimalOfDouble?, toChars_eq hshortest, htext]
  refine Decimal.parseChars?_written_eq_none negative hall nofun (List.length_pos_iff.1 hlength) ?_
  rw [hvalue]
  exact hlimit

/-- What there is room for is read as exactly what the shortest text denotes. -/
theorem exists_ofFloat (negative : Bool) (hshortest : x.shortest = (k, power)) (hscale : -28 ≤ power)
    (hlimit : k * 10 ^ power.toNat < Decimal.limit) :
    ∃ d, Csv.ofFloat negative x = .ok d ∧ d.value = factor negative * (k * 10 ^ power) := by
  have habs : (Decimal.signed negative (k * 10 ^ power.toNat)).natAbs < Decimal.limit := by
    rwa [Decimal.natAbs_signed]
  have hparts := decimalOfDouble?_eq negative hshortest hscale hlimit
  rw [Decimal.ofParts?, dif_pos ⟨habs, by omega⟩] at hparts
  refine ⟨_, by rw [Csv.ofFloat, hparts], ?_⟩
  have hpower : (10 : ℚ) ^ power = 10 ^ power.toNat / 10 ^ (-power).toNat := by
    rw [← zpow_natCast, ← zpow_natCast, ← zpow_sub₀ (by norm_num)]
    congr 1
    omega
  rw [Decimal.value, hpower, cast_signed]
  push_cast
  ring

/-- What is read at all is what the shortest text denotes. -/
theorem value_of_ofFloat {negative : Bool} {d : Decimal} (hshortest : x.shortest = (k, power))
    (hscale : -28 ≤ power) (hk : k < Decimal.limit) (h : Csv.ofFloat negative x = .ok d) :
    d.value = factor negative * (k * 10 ^ power) := by
  by_cases hlimit : k * 10 ^ power.toNat < Decimal.limit
  · obtain ⟨same, hsame, hvalue⟩ := exists_ofFloat negative hshortest hscale hlimit
    cases h.symm.trans hsame
    exact hvalue
  · have hpower : 0 ≤ power := by
      by_contra hnegative
      rw [Int.toNat_of_nonpos (by omega), Nat.pow_zero, Nat.mul_one] at hlimit
      exact hlimit hk
    rw [Csv.ofFloat, decimalOfDouble?_eq_none negative hshortest hpower (Nat.le_of_not_lt hlimit)] at h
    cases h

end Binary64

end Cashbook
