/-
Which sums are exact.

A sum of decimals is carried to the larger of the two scales, and if it is too long
there it loses places until it fits.  The places that it loses may be zeros, so the
question when a sum is exact has nothing to do with the scales of its terms: it is
exact if there is any decimal at all that denotes it.  Otherwise it is rounded, and
there is no sum only where even the nearest whole number is out of range.
-/
import Cashbook.Money

namespace Cashbook

attribute [local instance (high)] instPowNat instNatPowNat Int.instNatPow

/-! ### Rounding at the edge of the range -/

/-- A quotient is rounded up to an even number from half a unit below that number on. -/
theorem le_roundHalfEven_iff {n d m : Nat} (h : 0 < d) (heven : m % 2 = 0) :
    m ≤ roundHalfEven n d ↔ 2 * (m * d) ≤ 2 * n + d := by
  have hn := Nat.div_add_mod n d
  have hr := Nat.mod_lt n h
  have hsucc : (n / d + 1) * d = d * (n / d) + d := by rw [Nat.succ_mul, Nat.mul_comm]
  constructor
  · intro hle
    have hnear := (roundHalfEven_near n h).2
    have hmul := Nat.mul_le_mul_right d hle
    omega
  · intro hle
    rcases Nat.lt_trichotomy (n / d + 1) m with hlt | heq | hgt
    · -- The quotient is too small to be rounded to the number.
      have hmul := Nat.mul_le_mul_right d (Nat.succ_le_of_lt hlt)
      rw [Nat.succ_mul] at hmul
      omega
    · -- What is left over is at least a half, and a half goes up as the quotient is odd.
      rw [← heq] at hle
      unfold roundHalfEven
      simp only
      rw [if_pos (by omega)]
      omega
    · unfold roundHalfEven
      simp only
      split <;> omega

/-- What is found among the first numbers is found at the first of them that has something. -/
theorem exists_of_findSome?_range {α : Type} {f : Nat → Option α} {n : Nat} {found : α}
    (h : (List.range n).findSome? f = some found) :
    ∃ i < n, f i = some found ∧ ∀ j < i, f j = none := by
  obtain ⟨before, i, rest, hrange, hi, hnone⟩ := List.findSome?_eq_some_iff.1 h
  rw [List.range_eq_range'] at hrange
  obtain ⟨k, hk, rfl, hcons⟩ := List.range'_eq_append_iff.1 hrange
  obtain ⟨rfl, hpos, -⟩ := List.range'_eq_cons_iff.1 hcons.symm
  exact ⟨_, by omega, hi, fun j hj => hnone j (List.mem_range'_1.2 (by omega))⟩

namespace Decimal

/-- Whether some decimal denotes a number, which is counted in units of `10 ^ -28`. -/
def CanHold (n : Int) : Prop := ∃ d : Decimal, d.units = n

/-- Whether a number is out of range even when it is rounded to the nearest whole one. -/
def OutOfRange (n : Int) : Prop :=
  2 * (limit * 10 ^ (28 : Nat)) ≤ 2 * n.natAbs + 10 ^ (28 : Nat)

/-! ### Places that are dropped -/

/-- Dropping zeros changes nothing. -/
theorem roundedShift_mul (coefficient : Int) (places : Nat) :
    roundedShift (coefficient * 10 ^ places) places = coefficient := by
  have hp : (0 : Int) < 10 ^ places := Int.pow_pos (by omega)
  have habs : (coefficient * 10 ^ places).natAbs = coefficient.natAbs * 10 ^ places := by
    rw [Int.natAbs_mul, Int.natAbs_pow]
    rfl
  rw [roundedShift, habs, roundHalfEven_mul _ (Nat.pow_pos (by omega)), Int.sign_mul,
    Int.sign_eq_one_of_pos hp, Int.mul_one, Int.sign_mul_natAbs]

theorem natAbs_roundedShift (value : Int) (places : Nat) :
    (roundedShift value places).natAbs = roundHalfEven value.natAbs (10 ^ places) := by
  rw [roundedShift, Int.natAbs_mul, Int.natAbs_natCast]
  by_cases hv : value = 0
  · subst hv
    have h := roundHalfEven_mul 0 (d := 10 ^ places) (Nat.pow_pos (by omega))
    rw [Nat.zero_mul] at h
    rw [Int.sign_zero, Int.natAbs_zero, Nat.zero_mul, h]
  · rw [Int.natAbs_sign_of_ne_zero hv, Nat.one_mul]

/-- A number that loses places does not fit from half a unit below the limit on. -/
theorem ofParts?_roundedShift_eq_none_iff {value : Int} {places scale : Nat} (hs : scale ≤ 28) :
    ofParts? (roundedShift value places) scale = none ↔
      2 * (limit * 10 ^ places) ≤ 2 * value.natAbs + 10 ^ places := by
  rw [← le_roundHalfEven_iff (Nat.pow_pos (by omega)) (by decide), ← natAbs_roundedShift, ofParts?]
  split
  · next h => simpa using h.1
  · next h => simpa [hs] using h

theorem units_of_ofParts? {coefficient : Int} {scale : Nat} {d : Decimal}
    (h : ofParts? coefficient scale = some d) : d.units = coefficient * 10 ^ (28 - scale) := by
  obtain ⟨rfl, rfl⟩ := coefficient_of_ofParts? h
  rfl

/-! ### Fitting -/

/-- A number is fitted with the fewest dropped places that leave it in range. -/
theorem exists_of_fit {value : Int} {scale : Nat} {d : Decimal} (h : fit value scale = some d) :
    ∃ dropped ≤ scale, ofParts? (roundedShift value dropped) (scale - dropped) = some d ∧
      ∀ fewer < dropped, ofParts? (roundedShift value fewer) (scale - fewer) = none := by
  obtain ⟨dropped, hlt, hd, hnone⟩ := exists_of_findSome?_range h
  exact ⟨dropped, Nat.le_of_lt_succ hlt, hd, hnone⟩

/-- A number cannot be fitted if it is out of range without any places. -/
theorem fit_eq_none_iff {value : Int} {scale : Nat} (hs : scale ≤ 28) :
    fit value scale = none ↔ 2 * (limit * 10 ^ scale) ≤ 2 * value.natAbs + 10 ^ scale := by
  rw [fit, List.findSome?_eq_none_iff]
  constructor
  · intro h
    have hlast := h scale (List.mem_range.2 (Nat.lt_succ_self scale))
    exact (ofParts?_roundedShift_eq_none_iff (by omega)).1 hlast
  · intro h dropped hmem
    have hle : dropped ≤ scale := Nat.le_of_lt_succ (List.mem_range.1 hmem)
    have hpow : 10 ^ dropped ≤ 10 ^ scale := Nat.pow_le_pow_right (by omega) hle
    refine (ofParts?_roundedShift_eq_none_iff (by omega)).2 ?_
    unfold limit at *
    omega

/-- A number that some decimal denotes is fitted exactly. -/
theorem fit_of_units {value : Int} {scale : Nat} {d : Decimal} (hs : scale ≤ 28)
    (h : value * 10 ^ (28 - scale) = d.units) :
    ∃ e, fit value scale = some e ∧ e.units = d.units := by
  by_cases hd : scale ≤ d.scale
  · -- The decimal has places to spare, so the number is short enough as it stands.
    have hp : 28 - scale = (d.scale - scale) + (28 - d.scale) := by
      have := d.scale_le
      omega
    have hpos : (10 : Int) ^ (28 - d.scale) ≠ 0 := Int.pow_ne_zero (by omega)
    have hc : value * 10 ^ (d.scale - scale) = d.coefficient := by
      rw [units, hp, Int.pow_add, ← Int.mul_assoc] at h
      exact Int.eq_of_mul_eq_mul_right hpos h
    have hle : value.natAbs ≤ d.coefficient.natAbs := by
      rw [← hc, Int.natAbs_mul, Int.natAbs_pow]
      exact Nat.le_mul_of_pos_right _ (Nat.pow_pos (by omega))
    refine ⟨_, fit_of_fits (Nat.lt_of_le_of_lt hle d.coefficient_lt) hs, ?_⟩
    exact h
  · -- The number ends in at least as many zeros as it has to lose.
    have hvalue : value = d.coefficient * 10 ^ (scale - d.scale) := by
      have hp : 28 - d.scale = (scale - d.scale) + (28 - scale) := by omega
      have hpos : (10 : Int) ^ (28 - scale) ≠ 0 := Int.pow_ne_zero (by omega)
      rw [units, hp, Int.pow_add, ← Int.mul_assoc] at h
      exact Int.eq_of_mul_eq_mul_right hpos h
    have hfits :
        ofParts? (roundedShift value (scale - d.scale)) (scale - (scale - d.scale)) ≠ none := by
      have hscale : scale - (scale - d.scale) = d.scale := by omega
      rw [hvalue, roundedShift_mul, hscale, ofParts?, dif_pos ⟨d.coefficient_lt, d.scale_le⟩]
      simp
    cases hfit : fit value scale with
    | none =>
        rw [fit, List.findSome?_eq_none_iff] at hfit
        exact absurd (hfit _ (List.mem_range.2 (by omega))) hfits
    | some e =>
        obtain ⟨dropped, -, he, hfirst⟩ := exists_of_fit hfit
        have hfew : dropped ≤ scale - d.scale := Nat.le_of_not_lt fun hlt => hfits (hfirst _ hlt)
        refine ⟨e, rfl, ?_⟩
        have hsplit : scale - d.scale = (scale - d.scale - dropped) + dropped := by omega
        have hscale : 28 - (scale - dropped) = dropped + (28 - scale) := by omega
        rw [units_of_ofParts? he, ← h, hvalue, hsplit, Int.pow_add, ← Int.mul_assoc,
          roundedShift_mul, hscale, Int.pow_add, ← Int.mul_assoc]

/-! ### Sums -/

/-- A sum is fitted at the larger of the two scales, unless there is nothing to add to. -/
theorem add?_eq_fit {a b : Decimal} (ha : a.coefficient ≠ 0) :
    ∃ value, a.add? b = fit value (max a.scale b.scale) ∧
      value * 10 ^ (28 - max a.scale b.scale) = a.units + b.units := by
  refine ⟨_, if_neg ha, ?_⟩
  have hs : max a.scale b.scale ≤ 28 := Nat.max_le.2 ⟨a.scale_le, b.scale_le⟩
  rw [Int.add_mul, units_align (Nat.le_max_left _ _) hs, units_align (Nat.le_max_right _ _) hs]

/-- A sum that some decimal denotes is exact. -/
theorem add?_of_canHold {a b : Decimal} (h : CanHold (a.units + b.units)) :
    ∃ c, a.add? b = some c ∧ c.units = a.units + b.units := by
  obtain ⟨d, hd⟩ := h
  by_cases ha : a.coefficient = 0
  · refine ⟨b, if_pos ha, ?_⟩
    simp [units, ha]
  · obtain ⟨value, hadd, hvalue⟩ := add?_eq_fit (b := b) ha
    rw [hadd, ← hd]
    rw [← hd] at hvalue
    exact fit_of_units (Nat.max_le.2 ⟨a.scale_le, b.scale_le⟩) hvalue

/-- A sum is exact if and only if some decimal denotes it. -/
theorem units_add?_eq_iff {a b c : Decimal} (h : a.add? b = some c) :
    c.units = a.units + b.units ↔ CanHold (a.units + b.units) := by
  constructor
  · exact fun hc => ⟨c, hc⟩
  · intro hhold
    obtain ⟨e, he, hunits⟩ := add?_of_canHold hhold
    rwa [Option.some.inj (h.symm.trans he)]

/-- Every decimal is at least a whole below the limit. -/
theorem natAbs_units_le (d : Decimal) :
    d.units.natAbs + 10 ^ (28 : Nat) ≤ limit * 10 ^ (28 : Nat) := by
  have hpow : 10 ^ (28 - d.scale) ≤ 10 ^ 28 :=
    Nat.pow_le_pow_right (by omega) (Nat.sub_le 28 d.scale)
  have hunits : d.units.natAbs ≤ d.coefficient.natAbs * 10 ^ 28 := by
    rw [units, Int.natAbs_mul, Int.natAbs_pow]
    exact Nat.mul_le_mul_left _ hpow
  have hlt := Nat.mul_le_mul_right (10 ^ 28) (Nat.succ_le_of_lt d.coefficient_lt)
  rw [Nat.succ_mul] at hlt
  omega

/-- A number no further from zero than one that a decimal denotes is in range. -/
theorem not_outOfRange {d : Decimal} {n : Int} (h : n.natAbs ≤ d.units.natAbs) : ¬OutOfRange n := by
  have hd := d.natAbs_units_le
  unfold OutOfRange
  omega

/-- There is no sum if and only if the exact one is out of range. -/
theorem add?_eq_none_iff {a b : Decimal} : a.add? b = none ↔ OutOfRange (a.units + b.units) := by
  by_cases ha : a.coefficient = 0
  · have hadd : a.add? b = some b := if_pos ha
    have hsum : a.units + b.units = b.units := by simp [units, ha]
    rw [hadd, hsum]
    exact ⟨fun h => absurd h (by simp), fun h => absurd h (not_outOfRange (Nat.le_refl _))⟩
  · obtain ⟨value, hadd, hvalue⟩ := add?_eq_fit (b := b) ha
    have hs : max a.scale b.scale ≤ 28 := Nat.max_le.2 ⟨a.scale_le, b.scale_le⟩
    rw [hadd, fit_eq_none_iff hs, OutOfRange, ← hvalue, Int.natAbs_mul, Int.natAbs_pow]
    -- Both sides count units of the scale at which the sum was fitted.
    have hpow : 10 ^ max a.scale b.scale * 10 ^ (28 - max a.scale b.scale) = 10 ^ 28 := by
      rw [← Nat.pow_add]
      congr 1
      omega
    have hpos : 0 < 10 ^ (28 - max a.scale b.scale) := Nat.pow_pos (by omega)
    rw [← Nat.mul_le_mul_right_iff hpos, Nat.add_mul, hpow, Nat.mul_assoc, Nat.mul_assoc, hpow,
      Nat.mul_assoc]
    rfl

end Decimal

end Cashbook
